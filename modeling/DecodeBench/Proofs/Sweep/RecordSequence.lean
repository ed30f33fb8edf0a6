import DecodeBench.Proofs.Sweep.Admission
import DecodeBench.Proofs.Sweep.Bench
import DecodeBench.Proofs.Sweep.Points
import DecodeBench.Scripted
import DecodeBench.Sweep.Run

/-! The records of a sweep: a block for each grid point, in the order of the points, up to the one at
which the sweep is given up. -/

namespace DecodeBench.Sweep

variable {σ : Type} [Testbed σ]

inductive Trials (o : TrialOptions) (p : GridPoint) :
    (count index : Nat) → Bench σ → List Measurement → Option (Nat × Int) → Bench σ → Prop
  | enough {index : Nat} {b : Bench σ} : Trials o p 0 index b [] none b
  | ok {count index : Nat} {b b₁ b₂ : Bench σ} {m : Measurement} {ms : List Measurement} {failure : Option (Nat × Int)}
      (trial : b.trial o p index = (.ok m, b₁)) (rest : Trials o p count (index + 1) b₁ ms failure b₂) :
      Trials o p (count + 1) index b (m :: ms) failure b₂
  | failed {count index chunk : Nat} {status : Int} {b b₁ : Bench σ}
      (trial : b.trial o p index = (.error (.decodeFailed chunk status), b₁)) :
      Trials o p (count + 1) index b [] (some (chunk, status)) b₁

def label (m : Measurement) : GridPoint × Nat := (m.point, m.repeatIndex)

/-- What follows the trials of a point that ended well: nothing if none failed, else a record that
replaces all trials to come, or the end of the sweep. -/
inductive Sequel (c : Config) (p : GridPoint) :
    (succeeded : Nat) → Option (Nat × Int) → List Record → Option Failure → Prop
  | none : Sequel c p c.repeatCount none [] none
  | skipped {succeeded chunk : Nat} {status : Int} (early : succeeded < c.repeatCount)
      (policy : c.failurePolicy = .skipGridPoint) : Sequel c p succeeded (some (chunk, status))
        [.skipped ⟨p, p.requiredSlots c.shared, .decodeFailed chunk status⟩] none
  | aborted {succeeded chunk : Nat} {status : Int} (early : succeeded < c.repeatCount)
      (policy : c.failurePolicy = .abortSweep) :
      Sequel c p succeeded (some (chunk, status)) [] (some (.decodeFailed chunk status))

inductive Block (c : Config) (p : GridPoint) : Bench σ → List Record → Option Failure → Bench σ → Prop
  | rejected {b : Bench σ} (verdict : (p.admission c.shared c.cacheBudget).isAdmitted = false) :
      Block c p b [.skipped ⟨p, p.requiredSlots c.shared, .budgetExceeded⟩] none b
  | admitted {b b' : Bench σ} {ms : List Measurement} {failure : Option (Nat × Int)} {rest : List Record}
      {end? : Option Failure} (verdict : (p.admission c.shared c.cacheBudget).isAdmitted = true)
      (trials : Trials c.trialOptions p c.repeatCount 0 b ms failure b')
      (labels : ms.map label = (List.range ms.length).map (p, ·)) (sequel : Sequel c p ms.length failure rest end?) :
      Block c p b (ms.map .trial ++ rest) end? b'

inductive Blocks (c : Config) : List GridPoint → Bench σ → List (List Record) → Option Failure → Bench σ → Prop
  | done {b : Bench σ} : Blocks c [] b [] none b
  | next {p : GridPoint} {ps : List GridPoint} {b b₁ b₂ : Bench σ} {rs : List Record} {blocks : List (List Record)}
      {failure : Option Failure} (block : Block c p b rs none b₁) (rest : Blocks c ps b₁ blocks failure b₂) :
      Blocks c (p :: ps) b (rs :: blocks) failure b₂
  | aborted {p : GridPoint} {ps : List GridPoint} {b b₁ : Bench σ} {rs : List Record} {e : Failure}
      (block : Block c p b rs (some e) b₁) : Blocks c (p :: ps) b [rs] (some e) b₁

def answerOf (rs : List Record) : Option Failure → Except Failure (List Record)
  | none => .ok rs
  | some e => .error e

def Hands (x : Step (List Record)) (b : Bench σ) (rs : List Record) (failure : Option Failure) (b' : Bench σ) : Prop :=
  ∀ before : Array Record,
    (x.plan b.batch).run b.bed before = ((answerOf rs failure, b'.batch), b'.bed, before ++ rs.toArray)

section Handing

variable {x y : Step (List Record)} {b b₁ b₂ : Bench σ} {r : Record} {rs rs' : List Record} {failure : Option Failure}

lemma hands_nil : Hands (pure []) b [] none b := by
  intro before
  rw [Step.plan_pure, Array.append_empty]
  rfl

lemma hands_throw (e : Failure) : Hands (throw e) b [] (some e) b := by
  intro before
  rw [Step.plan_throw, Array.append_empty]
  rfl

lemma emit_run (r : Record) (batch : Batch) (s : σ) (before : Array Record) :
    ((emit r).plan batch).run s before = ((.ok r, batch), s, before.push r) := rfl

lemma hands_emit (r : Record) : Hands (emit r >>= fun r => pure [r]) b [r] none b := by
  intro before
  rw [Step.run_bind_ok (emit_run r b.batch b.bed before), Step.plan_pure]
  rfl

lemma hands_cons (h : Hands x b rs failure b₁) :
    Hands (emit r >>= fun r => x >>= fun rs => pure (r :: rs)) b (r :: rs) failure b₁ := by
  intro before
  rw [Step.run_bind_ok (emit_run r b.batch b.bed before)]
  cases failure with
  | none =>
    rw [Step.run_bind_ok (h (before.push r)), Step.plan_pure]
    simp [Plan.run, answerOf]
  | some e =>
    rw [Step.run_bind_error (h (before.push r))]
    simp [answerOf]

lemma hands_append (h : Hands x b rs none b₁) (h' : Hands y b₁ rs' failure b₂) :
    Hands (x >>= fun rs => y >>= fun rs' => pure (rs ++ rs')) b (rs ++ rs') failure b₂ := by
  intro before
  rw [Step.run_bind_ok (h before)]
  cases failure with
  | none =>
    rw [Step.run_bind_ok (h' _), Step.plan_pure]
    simp [Plan.run, answerOf]
  | some e =>
    rw [Step.run_bind_error (h' _)]
    simp [answerOf]

lemma hands_error {f : List Record → Step (List Record)} {e : Failure} (h : Hands x b rs (some e) b₁) :
    Hands (x >>= f) b rs (some e) b₁ :=
  fun before => Step.run_bind_error (h before)

lemma hands_trial {o : TrialOptions} {p : GridPoint} {index : Nat} {answer : Except Failure Measurement}
    {f : Except Failure Measurement → Step (List Record)} (ht : b.trial o p index = (answer, b₁))
    (h : Hands (f answer) b₁ rs failure b₂) :
    Hands (Trial.attempt o p index >>= f) b rs failure b₂ := by
  intro before
  have hrun : ((Trial.attempt o p index).plan b.batch).run b.bed before = ((.ok answer, b₁.batch), b₁.bed, before) := by
    rw [Trial.attempt_plan, Plan.run_bind, Bench.run_measure, ht]
    rfl
  rw [Step.run_bind_ok hrun]
  exact h before

end Handing

section Points

variable {c : Config} {p : GridPoint} {b b' : Bench σ}

lemma exists_trials (hl : c.chunkSize ≠ 0) (hb : (Batch.empty c.batchCapacity 1).Alike b.batch)
    (hv : (p.admission c.shared c.cacheBudget).isAdmitted = true) (count index : Nat) :
    ∃ ms failure b', Trials c.trialOptions p count index b ms failure b' ∧
      ms.map label = (List.range' index ms.length).map (p, ·) ∧ (Batch.empty c.batchCapacity 1).Alike b'.batch := by
  induction count generalizing index b with
  | zero => exact ⟨[], none, b, .enough, rfl, hb⟩
  | succ count ih =>
    have hn : p.need c.trialOptions.shared ≤ b.batch.capacity := by
      rw [hb.capacity]
      exact Nat.le_trans (GridPoint.need_le_of_admitted hv) (Nat.le_max_left ..)
    -- The trial may have failed at any point; the batch is still as good as new.
    have hb₁ := hb.trans (Bench.trial_alike (o := c.trialOptions) (p := p) index)
    rcases Bench.trial_answer (o := c.trialOptions) hl (Trial.holds_of_need_le hn hb.stride_pos) index with
      ⟨m, hm, hpoint, hindex⟩ | ⟨chunk, status, hfailed⟩
    · obtain ⟨ms, failure, b', htrials, hlabels, hb'⟩ := ih hb₁ (index + 1)
      refine ⟨m :: ms, failure, b', .ok (Prod.ext hm rfl) htrials, ?_, hb'⟩
      rw [List.map_cons, hlabels, label, hpoint, hindex]
      rfl
    · exact ⟨[], some (chunk, status), _, .failed (Prod.ext hfailed rfl), rfl, hb₁⟩

lemma Trials.length {o : TrialOptions} {count index : Nat} {ms : List Measurement} {failure : Option (Nat × Int)}
    (h : Trials o p count index b ms failure b') :
    (failure = none → ms.length = count) ∧ (failure ≠ none → ms.length < count) := by
  induction h with
  | enough => exact ⟨fun _ => rfl, fun hne => absurd rfl hne⟩
  | ok _ _ ih => exact ⟨fun hnone => congrArg (· + 1) (ih.1 hnone), fun hne => Nat.succ_lt_succ (ih.2 hne)⟩
  | failed => exact ⟨nofun, fun _ => Nat.succ_pos _⟩

lemma Trials.hands {count index succeeded : Nat} {ms : List Measurement} {failure : Option (Nat × Int)}
    {rest : List Record} {end? : Option Failure} (h : Trials c.trialOptions p count index b ms failure b')
    (hs : Sequel c p succeeded failure rest end?) :
    Hands (repeatTrials c p (p.requiredSlots c.shared) count index) b (ms.map .trial ++ rest) end? b' := by
  induction h with
  | enough =>
    cases hs
    exact hands_nil
  | ok trial _ ih => exact hands_trial trial (hands_cons (ih hs))
  | failed trial =>
    refine hands_trial trial ?_
    cases hs with
    | skipped _ policy =>
      rw [policy]
      exact hands_emit _
    | aborted _ policy =>
      rw [policy]
      exact hands_throw _

lemma Trials.exists_sequel {o : TrialOptions} {ms : List Measurement} {failure : Option (Nat × Int)}
    (h : Trials o p c.repeatCount 0 b ms failure b') : ∃ rest end?, Sequel c p ms.length failure rest end? := by
  obtain ⟨hall, hearly⟩ := h.length
  cases failure with
  | none =>
    rw [hall rfl]
    exact ⟨_, _, .none⟩
  | some f =>
    cases hp : c.failurePolicy with
    | skipGridPoint => exact ⟨_, _, .skipped (hearly nofun) hp⟩
    | abortSweep => exact ⟨_, _, .aborted (hearly nofun) hp⟩

lemma exists_block (hl : c.chunkSize ≠ 0) (hb : (Batch.empty c.batchCapacity 1).Alike b.batch) (p : GridPoint) :
    ∃ rs end? b', Block c p b rs end? b' ∧ (Batch.empty c.batchCapacity 1).Alike b'.batch := by
  cases hv : (p.admission c.shared c.cacheBudget).isAdmitted with
  | false => exact ⟨_, _, b, .rejected hv, hb⟩
  | true =>
    obtain ⟨ms, failure, b', htrials, hlabels, hb'⟩ := exists_trials hl hb hv c.repeatCount 0
    obtain ⟨rest, end?, hsequel⟩ := htrials.exists_sequel (c := c)
    rw [← List.range_eq_range'] at hlabels
    exact ⟨_, end?, b', .admitted hv htrials hlabels hsequel, hb'⟩

lemma exists_blocks (hl : c.chunkSize ≠ 0) (hb : (Batch.empty c.batchCapacity 1).Alike b.batch) (ps : List GridPoint) :
    ∃ blocks end? b', Blocks c ps b blocks end? b' := by
  induction ps generalizing b with
  | nil => exact ⟨[], none, b, .done⟩
  | cons p ps ih =>
    obtain ⟨rs, end?, b₁, hblock, hb₁⟩ := exists_block hl hb p
    cases end? with
    | none =>
      obtain ⟨blocks, end?, b₂, hblocks⟩ := ih hb₁
      exact ⟨rs :: blocks, end?, b₂, .next hblock hblocks⟩
    | some e => exact ⟨[rs], some e, b₁, .aborted hblock⟩

lemma Block.hands {rs : List Record} {end? : Option Failure} (h : Block c p b rs end? b') :
    Hands (measurePoint c p) b rs end? b' := by
  have hslots : (p.admission c.shared c.cacheBudget).slots = _ := p.admission_slots
  cases h with
  | rejected verdict =>
    cases hv : p.admission c.shared c.cacheBudget with
    | rejected slots =>
      rw [hv] at hslots
      rw [measurePoint, hv, ← hslots]
      exact hands_emit _
    | admitted slots =>
      rw [hv] at verdict
      cases verdict
  | admitted verdict trials _ sequel =>
    cases hv : p.admission c.shared c.cacheBudget with
    | rejected slots =>
      rw [hv] at verdict
      cases verdict
    | admitted slots =>
      have hhands := trials.hands sequel
      rw [hv] at hslots
      rw [measurePoint, hv]
      rwa [← hslots] at hhands

lemma Blocks.hands {ps : List GridPoint} {blocks : List (List Record)} {end? : Option Failure}
    (h : Blocks c ps b blocks end? b') : Hands (measurePoints c ps) b blocks.flatten end? b' := by
  induction h with
  | done => exact hands_nil
  | next block _ ih => exact hands_append block.hands ih
  | aborted block =>
    rw [List.flatten_singleton]
    exact hands_error block.hands

end Points

inductive Ready (c : Config) (s : σ) : Bench σ → Prop
  | cold (off : c.warmupTokens = 0) : Ready c s ⟨.empty c.batchCapacity 1, s⟩
  | warm {b : Bench σ} (on : 0 < c.warmupTokens) {records : Array Record}
      (ran : ((warmUp (min c.warmupTokens c.cacheBudget) c.chunkSize).plan (.empty c.batchCapacity 1)).run s #[] =
        ((.ok (), b.batch), b.bed, records)) : Ready c s b

lemma warmUp_keeps (tokens limit : Nat) : (warmUp tokens limit).Keeps := by
  refine Step.keeps_bind Step.keeps_clearBatch fun _ => ?_
  refine Step.keeps_bind (Step.keeps_fill _ _) fun _ => ?_
  exact Step.keeps_bind (Step.keeps_submitBatch _) fun _ => Step.keeps_clearBatch

lemma plan?_eq_none {c : Config} : plan? c = none ↔ c.fault? = none ∧ 2 ^ 63 ≤ 8 * max c.cacheBudget c.warmupTokens := by
  have hfits : Batch.fitsMemory c.batchCapacity 1 = true ↔ 8 * max c.cacheBudget c.warmupTokens < 2 ^ 63 := by
    rw [Batch.fitsMemory, Memory.holds, decide_eq_true_iff, Config.batchCapacity, Memory.blockLimit]
    change max c.cacheBudget c.warmupTokens * 1 * 8 < 2 ^ 63 ↔ _
    omega
  rw [← Nat.not_lt, ← hfits, plan?, Config.fitsMemory]
  cases c.fault? <;> simp

lemma eq_run_of_plan? {c : Config} {plan : Plan (Except Failure (List Record))} (h : plan? c = some plan) : plan = run c := by
  rw [plan?] at h
  split_ifs at h
  exact (Option.some.inj h).symm

variable {c : Config} {s : σ} {b b' : Bench σ}

lemma Ready.alike (h : Ready c s b) : (Batch.empty c.batchCapacity 1).Alike b.batch := by
  cases h with
  | cold => exact .refl _
  | warm _ ran =>
    have halike := (warmUp_keeps (min c.warmupTokens c.cacheBudget) c.chunkSize).alike (.empty c.batchCapacity 1) s #[]
    rwa [ran] at halike

lemma Ready.body_run (h : Ready c s b) (before : Array Record) :
    ((body c).plan (.empty c.batchCapacity 1)).run s before = ((measurePoints c c.points).plan b.batch).run b.bed before := by
  cases h with
  | cold off => rw [body, if_neg (by omega)]
  | warm on ran =>
    have hrun := (warmUp_keeps (min c.warmupTokens c.cacheBudget) c.chunkSize).run (.empty c.batchCapacity 1) s before
    rw [ran] at hrun
    rw [body, if_pos on, Step.run_bind_ok hrun]

lemma run_of_valid (hvalid : c.validate = .ok ()) :
    run c = ((body c).plan (.empty c.batchCapacity 1)).bind fun r => .done r.1 := by
  rw [run, hvalid]
  rfl

lemma Ready.run_of_blocks (hvalid : c.validate = .ok ()) (h : Ready c s b) {blocks : List (List Record)}
    {end? : Option Failure} (hblocks : Blocks c c.points b blocks end? b') (before : Array Record) :
    (run c).run s before = (answerOf blocks.flatten end?, b'.bed, before ++ blocks.flatten.toArray) := by
  rw [run_of_valid hvalid, Plan.run_bind, h.body_run, hblocks.hands before]
  rfl

lemma Ready.exists_blocks (hvalid : c.validate = .ok ()) (h : Ready c s b) :
    ∃ blocks end? b', Blocks c c.points b blocks end? b' := by
  obtain ⟨-, -, hl⟩ := Config.bounds_of_valid hvalid
  exact Sweep.exists_blocks hl h.alike c.points

lemma Ready.run_eq (hvalid : c.validate = .ok ()) (h : Ready c s b) (before : Array Record) :
    ∃ blocks end? b', Blocks c c.points b blocks end? b' ∧
      (run c).run s before = (answerOf blocks.flatten end?, b'.bed, before ++ blocks.flatten.toArray) := by
  obtain ⟨blocks, end?, b', hblocks⟩ := h.exists_blocks hvalid
  exact ⟨blocks, end?, b', hblocks, h.run_of_blocks hvalid hblocks before⟩

theorem records_eq_flatten_blocks (hvalid : c.validate = .ok ()) (hready : Ready c s b) (before : Array Record) :
    (c.points.length = c.promptLengths.length * (c.genLengths.length * c.parallelism.length) ∧
      ∀ k, c.points[k]? = do
        let promptLength ← c.promptLengths[k / (c.genLengths.length * c.parallelism.length)]?
        let genLength ← c.genLengths[k / c.parallelism.length % c.genLengths.length]?
        let parallelism ← c.parallelism[k % c.parallelism.length]?
        return ⟨promptLength, genLength, parallelism⟩) ∧
      (plan? c = none ↔ 2 ^ 63 ≤ 8 * max c.cacheBudget c.warmupTokens) ∧
      ∀ plan, plan? c = some plan → ∃ blocks end? b', Blocks c c.points b blocks end? b' ∧
        plan.run s before = (answerOf blocks.flatten end?, b'.bed, before ++ blocks.flatten.toArray) := by
  obtain ⟨hg, hn, -⟩ := Config.bounds_of_valid hvalid
  refine ⟨⟨c.length_points, c.getElem?_points hg hn⟩, ?_, fun plan hplan => ?_⟩
  · rw [plan?_eq_none, Config.fault?_of_valid hvalid, and_iff_right rfl]
  · rw [eq_run_of_plan? hplan]
    exact hready.run_eq hvalid before

theorem blocks_after_a_warmup :
    let c : Config := {
      promptLengths := [2], genLengths := [1], parallelism := [1, 5], repeatCount := 2
      cacheBudget := 8, chunkSize := 4, warmupTokens := 1, failurePolicy := .skipGridPoint }
    let s : Rig ScriptedEngine NoClock := ⟨{ script := { failAt := [(4, 2)] } }, ⟨⟩⟩
    c.validate = .ok () ∧ ∃ b plan, Ready c s b ∧ plan? c = some plan ∧ c.points[1]? = some ⟨2, 1, 5⟩ ∧
      ∃ blocks end? b', Blocks c c.points b blocks end? b' ∧
        plan.run s #[] = (answerOf blocks.flatten end?, b'.bed, #[] ++ blocks.flatten.toArray) := by
  intro c s
  have hvalid : c.validate = .ok () := rfl
  let ran := ((warmUp (min c.warmupTokens c.cacheBudget) c.chunkSize).plan (.empty c.batchCapacity 1)).run s #[]
  have hok : ran.1.1 = .ok () := by decide
  have hran : ran = ((.ok (), ran.1.2), ran.2.1, ran.2.2) := by rw [← hok]
  have hready : Ready c s ⟨ran.1.2, ran.2.1⟩ := .warm (by decide) hran
  have hplan : plan? c = some (run c) := rfl
  obtain ⟨⟨-, hpoints⟩, -, hblocks⟩ := records_eq_flatten_blocks hvalid hready #[]
  exact ⟨hvalid, _, _, hready, hplan, (hpoints 1).trans (by decide), hblocks _ hplan⟩

theorem a_sweep_without_memory_hands_out_no_block :
    let c : Config := {
      promptLengths := [1], genLengths := [1], parallelism := [1], repeatCount := 1
      cacheBudget := 2 ^ 62, warmupTokens := 0, failurePolicy := .skipGridPoint }
    let s : Rig ScriptedEngine NoClock := ⟨{ script := {} }, ⟨⟩⟩
    c.validate = .ok () ∧ Ready c s ⟨.empty c.batchCapacity 1, s⟩ ∧
      ¬ ∃ plan blocks end? b', plan? c = some plan ∧ Blocks c c.points ⟨.empty c.batchCapacity 1, s⟩ blocks end? b' ∧
        plan.run s #[] = (answerOf blocks.flatten end?, b'.bed, blocks.flatten.toArray) := by
  intro c s
  have hplan : plan? c = none := plan?_eq_none.2 ⟨by decide, by decide⟩
  refine ⟨rfl, .cold rfl, ?_⟩
  rintro ⟨plan, blocks, end?, b', hsome, -⟩
  cases hplan.symm.trans hsome

end DecodeBench.Sweep
