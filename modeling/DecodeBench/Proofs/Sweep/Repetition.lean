import DecodeBench.Proofs.Sweep.Independence
import DecodeBench.Proofs.Sweep.Totals

/-! A sweep that is run once more on the engine that it was run on. Its trials clear the cache, so their
records are the same again; its warm-up does not, and has only the cells that the first sweep left. -/

namespace DecodeBench.Sweep

open Cache Model Testbed Transformer Trial

section Agreement

variable {κ κ' : Type} [Clock κ] [Clock κ'] {t : Terms} {c : Config} {p : GridPoint}
  {b₁ b₁' : Bench (Rig State κ)} {b₂ b₂' : Bench (Rig State κ')}

lemma Sequel.agree {succeeded succeeded' : Nat} {failure : Option (Nat × Int)} {rest rest' : List Record}
    {end? end?' : Option Failure} (h : Sequel c p succeeded failure rest end?)
    (h' : Sequel c p succeeded' failure rest' end?') : rest = rest' ∧ end? = end?' := by
  cases h with
  | none =>
    cases h'
    exact ⟨rfl, rfl⟩
  | skipped _ policy =>
    cases h' with
    | skipped => exact ⟨rfl, rfl⟩
    | aborted _ policy' => cases policy.symm.trans policy'
  | aborted _ policy =>
    cases h' with
    | skipped _ policy' => cases policy.symm.trans policy'
    | aborted => exact ⟨rfl, rfl⟩

lemma Trials.agree {ms ms' : List Measurement} {failure failure' : Option (Nat × Int)}
    (h : Trials c.trialOptions p c.repeatCount 0 b₁ ms failure b₁')
    (h' : Trials c.trialOptions p c.repeatCount 0 b₂ ms' failure' b₂') (hrepeats : c.repeatCount ≠ 0)
    (hb : b₁.Sound t c) (hb' : b₂.Sound t c) :
    (ms.map Record.trial).map headline = (ms'.map Record.trial).map headline ∧ failure = failure' := by
  have ht : t.Alike t := ⟨rfl, rfl, rfl⟩
  cases hsolo : (solo t (.empty c.batchCapacity 1) c.trialOptions p).1.1 with
  | ok m =>
    obtain ⟨hheadlines, hnone⟩ := h.of_solo_ok hb ht hsolo
    obtain ⟨hheadlines', hnone'⟩ := h'.of_solo_ok hb' ht hsolo
    exact ⟨hheadlines.trans hheadlines'.symm, hnone.trans hnone'.symm⟩
  | error e =>
    obtain ⟨rfl, chunk, status, rfl, hfailure⟩ := h.of_solo_failed hrepeats hb ht hsolo
    obtain ⟨rfl, _, _, he, hfailure'⟩ := h'.of_solo_failed hrepeats hb' ht hsolo
    cases he
    exact ⟨rfl, hfailure.trans hfailure'.symm⟩

lemma Block.sound {rs : List Record} {end? : Option Failure} (h : Block c p b₁ rs end? b₁') (hb : b₁.Sound t c) :
    b₁'.Sound t c := by
  cases h with
  | rejected => exact hb
  | admitted _ trials => exact trials.sound hb

lemma Block.agree {rs rs' : List Record} {end? end?' : Option Failure} (h : Block c p b₁ rs end? b₁')
    (h' : Block c p b₂ rs' end?' b₂') (hrepeats : c.repeatCount ≠ 0) (hb : b₁.Sound t c) (hb' : b₂.Sound t c) :
    rs.map headline = rs'.map headline ∧ end? = end?' := by
  cases h with
  | rejected verdict =>
    cases h' with
    | rejected => exact ⟨rfl, rfl⟩
    | admitted verdict' => cases verdict.symm.trans verdict'
  | admitted verdict trials _ sequel =>
    cases h' with
    | rejected verdict' => cases verdict.symm.trans verdict'
    | admitted _ trials' _ sequel' =>
      obtain ⟨hheadlines, rfl⟩ := trials.agree trials' hrepeats hb hb'
      obtain ⟨rfl, hend⟩ := sequel.agree sequel'
      exact ⟨by rw [List.map_append, List.map_append, hheadlines], hend⟩

lemma Blocks.agree {ps : List GridPoint} {blocks blocks' : List (List Record)} {end? end?' : Option Failure}
    (h : Blocks c ps b₁ blocks end? b₁') (h' : Blocks c ps b₂ blocks' end?' b₂') (hrepeats : c.repeatCount ≠ 0)
    (hb : b₁.Sound t c) (hb' : b₂.Sound t c) :
    blocks.flatten.map headline = blocks'.flatten.map headline ∧ end? = end?' := by
  -- The points are the same, so each step of one run has its counterpart in the other.
  induction h generalizing b₂ blocks' with
  | done =>
    cases h'
    exact ⟨rfl, rfl⟩
  | next block _ ih =>
    cases h' with
    | next block' rest' =>
      obtain ⟨hblock, -⟩ := block.agree block' hrepeats hb hb'
      obtain ⟨hrest, hend⟩ := ih rest' (block.sound hb) (block'.sound hb')
      rw [List.flatten_cons, List.flatten_cons, List.map_append, List.map_append, hblock, hrest]
      exact ⟨rfl, hend⟩
    | aborted block' =>
      obtain ⟨-, hend⟩ := block.agree block' hrepeats hb hb'
      cases hend
  | aborted block =>
    cases h' with
    | next block' =>
      obtain ⟨-, hend⟩ := block.agree block' hrepeats hb hb'
      cases hend
    | aborted block' =>
      rw [List.flatten_singleton, List.flatten_singleton]
      exact block.agree block' hrepeats hb hb'

lemma Ready.run_agree {s : Rig State κ} {s' : Rig State κ'} (h : Ready c s b₁) (h' : Ready c s' b₂)
    (hvalid : c.validate = .ok ()) (hs : ∃ l, s.engine.Balanced t l) (hs' : ∃ l, s'.engine.Balanced t l)
    {before before' : Array Record} {records : List Record} (hok : ((run c).run s before).1 = .ok records) :
    ∃ records', ((run c).run s' before').1 = .ok records' ∧ ((run c).run s' before').2.2 = before' ++ records'.toArray ∧
      records'.map headline = records.map headline := by
  obtain ⟨-, -, -, -, hrepeats, -, -⟩ := Config.fault?_eq_none.1 (Config.fault?_of_valid hvalid)
  obtain ⟨blocks, end?, b₁', hblocks, hrun⟩ := h.run_eq hvalid before
  obtain ⟨blocks', end?', b₂', hblocks', hrun'⟩ := h'.run_eq hvalid before'
  obtain ⟨hheadlines, rfl⟩ := hblocks.agree hblocks' hrepeats (h.sound hs) (h'.sound hs')
  rw [hrun] at hok
  rw [hrun']
  cases end? with
  | none =>
    cases hok
    exact ⟨blocks'.flatten, rfl, rfl, hheadlines.symm⟩
  | some e => cases hok

end Agreement

section Engine

variable {t : Terms} {c : Config} {l : Ledger}

lemma length_after_trialCalls (ht : Suits t c) {p : GridPoint} (hp : p ∈ c.points) (hv : c.admits p = true)
    {count : Nat} (hcount : count ≠ 0) : (l.after t (c.trialCalls p count)).entries.length = p.need c.shared := by
  have hsuits := ht.suits_point (ht.parallelism _ (Config.parallelism_of_mem_points hp))
  have hneed : p.need c.trialOptions.shared ≤ t.limits.cells :=
    Nat.le_trans (GridPoint.need_le_of_admitted hv) ht.cells
  induction count generalizing l with
  | zero => exact absurd rfl hcount
  | succ count ih =>
    rw [Config.trialCalls_succ, Ledger.after_append]
    rcases Nat.eq_zero_or_pos count with rfl | hpos
    · exact (Ledger.after_schedule ht.computes hsuits (Nat.le_refl 1) hneed).1
    · exact ih (Nat.ne_of_gt hpos)

lemma length_after_points (ht : Suits t c) (hrepeats : c.repeatCount ≠ 0) {ps : List GridPoint}
    (hps : ∀ p ∈ ps, p ∈ c.points) : (l.after t (ps.flatMap c.pointCalls)).entries.length =
      ((ps.filter c.admits).getLast?.map fun p => p.need c.shared).getD l.entries.length := by
  induction ps generalizing l with
  | nil => rfl
  | cons p ps ih =>
    obtain ⟨hp, hps⟩ := List.forall_mem_cons.1 hps
    rw [List.flatMap_cons, Ledger.after_append, ih hps, List.filter_cons, Config.pointCalls]
    split_ifs with hv
    · rw [length_after_trialCalls ht hp hv hrepeats, List.getLast?_cons]
      cases (ps.filter c.admits).getLast? <;> rfl
    · rfl

lemma length_after_calls (ht : Suits t c) (hrepeats : c.repeatCount ≠ 0)
    (hroom : l.entries.length + min c.warmupTokens c.cacheBudget ≤ t.limits.cells) :
    (l.after t c.calls).entries.length = (c.admitted.getLast?.map fun p => p.need c.shared).getD
      (l.entries.length + min c.warmupTokens c.cacheBudget) := by
  rw [← length_decoded_warmupCalls ht.chunk] at hroom ⊢
  rw [Config.calls, Ledger.after_append, length_after_points ht hrepeats fun _ hp => hp,
    (Ledger.after_of_fits ht.computes ht.serves_warmup hroom).1]
  rfl

variable {κ : Type} [Clock κ] {s : Rig State κ}

lemma computes_of_warmup (hsteady : t.Steady) (hs : s.engine.Balanced t l) (hvalid : c.validate = .ok ())
    (on : 0 < c.warmupTokens) (hf : firstFailure? s (warmupCalls c) = none) : t.Computes := by
  obtain ⟨-, -, -, -, -, hbudget, hl⟩ := Config.fault?_eq_none.1 (Config.fault?_of_valid hvalid)
  cases hcalls : warmupCalls c with
  | nil =>
    have hlength := length_decoded_warmupCalls (c := c) (Nat.pos_of_ne_zero hl)
    rw [hcalls, decoded_nil, List.length_nil] at hlength
    omega
  | cons call calls =>
    have hmem : call ∈ warmupCalls c := by rw [hcalls]; exact List.mem_cons_self
    rw [warmupCalls, scheduled, List.flatMap_singleton] at hmem
    obtain ⟨w, -, rfl⟩ := List.mem_map.1 hmem
    rw [hcalls, firstFailure?, Option.or_eq_none_iff] at hf
    obtain ⟨hvalid, hfits, hcompletes⟩ := Ledger.status_eq_zero.1 (hs.status_of_no_failure hf.1)
    exact fun w' hw' => hsteady _ w' (Ledger.poses_work hvalid hfits) hw' hcompletes

lemma run_of_no_room (ht : Suits t c) (hs : s.engine.Balanced t l) (hvalid : c.validate = .ok ())
    (hroom : t.limits.cells < l.entries.length + min c.warmupTokens c.cacheBudget) (before : Array Record) :
    ∃ chunk, ((run c).run s before).1 = .error (.decodeFailed chunk 1) ∧ ((run c).run s before).2.2 = before := by
  have hf := firstFailure?_warmup ht hs
  rw [if_neg (Nat.not_le.2 hroom)] at hf
  obtain ⟨on, chunk, batch, bed, hwarmup⟩ := exists_failed_warmup (Nat.ne_of_gt ht.chunk) hf
  rw [run_of_failed_warmup hvalid on (hwarmup before)]
  exact ⟨chunk, rfl, rfl⟩

lemma exists_ready_of_room (hsuits : 0 < c.warmupTokens → Suits t c) (hs : s.engine.Balanced t l)
    (hvalid : c.validate = .ok ()) (hroom : l.entries.length + min c.warmupTokens c.cacheBudget ≤ t.limits.cells) :
    ∃ b, Ready c s b := by
  rcases Nat.eq_zero_or_pos c.warmupTokens with off | on
  · exact ⟨_, .cold off⟩
  · obtain ⟨-, -, hl⟩ := Config.bounds_of_valid hvalid
    have hf := firstFailure?_warmup (hsuits on) hs
    rw [if_pos hroom] at hf
    obtain ⟨b, hready, -⟩ := exists_ready hl hf
    exact ⟨b, hready⟩

lemma exists_ready_of_ok (hvalid : c.validate = .ok ()) {before : Array Record} {records : List Record}
    (hok : ((run c).run s before).1 = .ok records) : firstFailure? s (warmupCalls c) = none ∧ ∃ b, Ready c s b := by
  obtain ⟨-, -, hl⟩ := Config.bounds_of_valid hvalid
  cases hf : firstFailure? s (warmupCalls c) with
  | none =>
    obtain ⟨b, hready, -⟩ := exists_ready hl hf
    exact ⟨rfl, b, hready⟩
  | some status =>
    obtain ⟨on, chunk, batch, bed, hwarmup⟩ := exists_failed_warmup hl hf
    rw [run_of_failed_warmup hvalid on (hwarmup before)] at hok
    cases hok

lemma balanced_after_run (hs : s.engine.Balanced t l) (before : Array Record) :
    ∃ l', ((run c).run s before).2.1.engine.Balanced t l' := by
  rw [Plan.run_bed]
  exact ⟨_, hs.after_engine _⟩

lemma used_after_run (ht : Suits t c) (hs : s.engine.Balanced t l) (hvalid : c.validate = .ok ())
    (hf : firstFailure? s (warmupCalls c) = none) (before : Array Record) :
    ((run c).run s before).2.1.engine.table.used = (c.admitted.getLast?.map fun p => p.need c.shared).getD
      (s.engine.table.used + min c.warmupTokens c.cacheBudget) := by
  obtain ⟨-, -, -, -, hrepeats, -, -⟩ := Config.fault?_eq_none.1 (Config.fault?_of_valid hvalid)
  have hroom : l.entries.length + min c.warmupTokens c.cacheBudget ≤ t.limits.cells := by
    by_contra hfull
    rw [firstFailure?_warmup ht hs, if_neg hfull] at hf
    cases hf
  obtain ⟨records, hrun, -⟩ := run_of_no_failure hvalid (firstFailure?_calls ht hs hroom) before
  rw [hrun, (hs.after_engine c.calls).table.used, hs.table.used, length_after_calls ht hrepeats hroom]

end Engine

lemma suits_of_create {d : Dimensions} {limits : Limits} {device : Device} {format : NumberFormat} {fresh : State}
    (hcreate : State.create d limits device format = .ok fresh) {c : Config} (hvalid : c.validate = .ok ())
    (hcells : c.cacheBudget ≤ limits.cells) (hbatch : c.chunkSize ≤ limits.batch)
    (hsequences : c.sequenceLimit ≤ limits.sequences) (hcomputes : Terms.Computes ⟨d, limits, device, format⟩) :
    Suits ⟨d, limits, device, format⟩ c := by
  obtain ⟨-, -, -, hparallelism, -, -, hl⟩ := Config.fault?_eq_none.1 (Config.fault?_of_valid hvalid)
  exact {
    cells := hcells
    batch := hbatch
    chunk := Nat.pos_of_ne_zero hl
    sequences := (State.create_sequences hcreate).1
    parallelism := fun n hn => Nat.le_trans (hparallelism n hn).2 hsequences
    vocabulary := Dimensions.vocabulary_pos (State.create_faultless hcreate)
    computes := hcomputes }

theorem repeats_iff_warmup_fits {d : Dimensions} {limits : Limits} {device : Device} {format : NumberFormat}
    {fresh : State} (hcreate : State.create d limits device format = .ok fresh)
    (hsteady : Terms.Steady ⟨d, limits, device, format⟩) (history : List Call) {c : Config} (hvalid : c.validate = .ok ())
    (hcells : c.cacheBudget ≤ limits.cells) (hbatch : c.chunkSize ≤ limits.batch)
    (hsequences : c.sequenceLimit ≤ limits.sequences) {κ κ' : Type} [Clock κ] [Clock κ'] (clock : κ) (clock' : κ')
    (before before' : Array Record) :
    (plan? c = none ↔ 2 ^ 63 ≤ 8 * max c.cacheBudget c.warmupTokens) ∧
    ∀ plan, plan? c = some plan →
    let engine := Engine.after fresh history
    let warmup := min c.warmupTokens c.cacheBudget
    let first := plan.run (⟨engine, clock⟩ : Rig State κ) before
    let left := first.2.1.engine.table.used
    let second := plan.run (⟨first.2.1.engine, clock'⟩ : Rig State κ') before'
    ∀ records, first.1 = .ok records →
      left ≤ limits.cells ∧
      ((∃ records', second.1 = .ok records') ↔ left + warmup ≤ limits.cells) ∧
      (∀ records', second.1 = .ok records' →
        records'.map headline = records.map headline ∧ second.2.2 = before' ++ records'.toArray) ∧
      (limits.cells < left + warmup → ∃ chunk, second.1 = .error (.decodeFailed chunk 1) ∧ second.2.2 = before') ∧
      (0 < c.warmupTokens → left =
        (c.admitted.getLast?.map fun p => p.need c.shared).getD (engine.table.used + warmup)) := by
  refine ⟨by rw [plan?_eq_none, Config.fault?_of_valid hvalid, and_iff_right rfl], ?_⟩
  intro plan hplan engine warmup first left second records hok
  obtain rfl := eq_run_of_plan? hplan
  have hs : engine.Balanced ⟨d, limits, device, format⟩ _ := (State.create_balanced hcreate).after history
  obtain ⟨hf, b, hready⟩ := exists_ready_of_ok hvalid hok
  obtain ⟨l, hleft⟩ : ∃ l, first.2.1.engine.Balanced ⟨d, limits, device, format⟩ l :=
    balanced_after_run (s := ⟨engine, clock⟩) hs before
  have hused : left = l.entries.length := hleft.table.used
  have hle : l.entries.length ≤ limits.cells := hleft.length_le
  -- A warm-up has shown that the engine computes; without one it may fail every trial, and still the sweep ends well.
  have hsuits : 0 < c.warmupTokens → Suits ⟨d, limits, device, format⟩ c := fun on =>
    suits_of_create hcreate hvalid hcells hbatch hsequences
      (computes_of_warmup (s := ⟨engine, clock⟩) hsteady hs hvalid on hf)
  have hagain : left + warmup ≤ limits.cells → ∃ records', second.1 = .ok records' ∧
      second.2.2 = before' ++ records'.toArray ∧ records'.map headline = records.map headline := by
    intro hroom
    rw [hused] at hroom
    obtain ⟨b', hready'⟩ :=
      exists_ready_of_room (s := (⟨first.2.1.engine, clock'⟩ : Rig State κ')) hsuits hleft hvalid hroom
    exact hready.run_agree hready' hvalid ⟨_, hs⟩ ⟨l, hleft⟩ hok
  have hfull : limits.cells < left + warmup →
      ∃ chunk, second.1 = .error (.decodeFailed chunk 1) ∧ second.2.2 = before' := by
    intro hroom
    have on : 0 < c.warmupTokens := by omega
    rw [hused] at hroom
    exact run_of_no_room (s := (⟨first.2.1.engine, clock'⟩ : Rig State κ')) (hsuits on) hleft hvalid hroom before'
  refine ⟨hused ▸ hle, ⟨?_, fun hroom => ?_⟩, ?_, hfull, fun on => ?_⟩
  · rintro ⟨records', hok'⟩
    by_contra hroom
    obtain ⟨chunk, hfailed, -⟩ := hfull (Nat.lt_of_not_le hroom)
    cases hok'.symm.trans hfailed
  · obtain ⟨records', hok', -⟩ := hagain hroom
    exact ⟨records', hok'⟩
  · intro records' hok'
    rcases Nat.lt_or_ge limits.cells (left + warmup) with hroom | hroom
    · obtain ⟨chunk, hfailed, -⟩ := hfull hroom
      cases hok'.symm.trans hfailed
    · obtain ⟨records'', hok'', hrecords, hheadlines⟩ := hagain hroom
      cases hok'.symm.trans hok''
      exact ⟨hheadlines, hrecords⟩
  · exact used_after_run (s := ⟨engine, clock⟩) (hsuits on) hs hvalid hf before

theorem one_spare_cell_is_enough_to_repeat :
    let limits : Limits := { cells := 3, batch := 2 }
    let c : Config := {
      promptLengths := [1], genLengths := [1], parallelism := [1], repeatCount := 1
      cacheBudget := 2, chunkSize := 2, warmupTokens := 1 }
    ∃ fresh plan, State.create .tiny limits processor .binary32 = .ok fresh ∧ plan? c = some plan ∧
      let first := plan.run (⟨fresh, ⟨⟩⟩ : Rig State NoClock) #[]
      let second := plan.run (⟨first.2.1.engine, {}⟩ : Rig State SteppingClock) #[]
      ∃ records records', first.1 = .ok records ∧ second.1 = .ok records' ∧
        records'.map headline = records.map headline := by
  intro limits c
  have hcreate : State.create .tiny { cells := 3, batch := 2 } processor .binary32 = .ok _ := rfl
  have hvalid : c.validate = .ok () := rfl
  have hplan : plan? c = some (run c) := rfl
  have hsuits := suits_of_create hcreate hvalid (by decide) (by decide) (by decide) (Terms.computes_processor _ _)
  obtain ⟨records, hrun, -⟩ := run_of_no_failure (s := (⟨_, ⟨⟩⟩ : Rig State NoClock)) hvalid
    (firstFailure?_calls hsuits (State.create_balanced hcreate) (by decide)) #[]
  have hok := congrArg Prod.fst hrun
  obtain ⟨-, hrepeats⟩ := repeats_iff_warmup_fits hcreate (Terms.steady_processor rfl _ _) [] hvalid (by decide)
    (by decide) (by decide) (⟨⟩ : NoClock) ({} : SteppingClock) #[] #[]
  obtain ⟨-, hiff, hsame, -, hleft⟩ := hrepeats _ hplan records hok
  have hroom := hleft (by decide)
  obtain ⟨records', hok'⟩ := hiff.2 (by rw [hroom]; decide)
  exact ⟨_, _, hcreate, hplan, records, records', hok, hok', (hsame records' hok').1⟩

theorem a_full_cache_stops_the_repetition :
    let limits : Limits := { cells := 2, batch := 2 }
    let c : Config := {
      promptLengths := [1], genLengths := [1], parallelism := [1], repeatCount := 1
      cacheBudget := 2, chunkSize := 2, warmupTokens := 1 }
    ∃ fresh plan, State.create .tiny limits processor .binary16 = .ok fresh ∧ c.validate = .ok () ∧
      c.cacheBudget ≤ limits.cells ∧ c.chunkSize ≤ limits.batch ∧ c.sequenceLimit ≤ limits.sequences ∧
      plan? c = some plan ∧
      let first := plan.run (⟨fresh, ⟨⟩⟩ : Rig State NoClock) #[]
      let second := plan.run (⟨first.2.1.engine, ⟨⟩⟩ : Rig State NoClock) #[]
      (∃ records, first.1 = .ok records) ∧ ∃ chunk, second.1 = .error (.decodeFailed chunk 1) := by
  intro limits c
  have hcreate : State.create .tiny { cells := 2, batch := 2 } processor .binary16 = .ok _ := rfl
  have hvalid : c.validate = .ok () := rfl
  have hcomputes : Terms.Computes ⟨.tiny, limits, processor, .binary16⟩ := fun _ _ stage _ => by cases stage <;> rfl
  have hsuits := suits_of_create hcreate hvalid (by decide) (by decide) (by decide) hcomputes
  have hs := State.create_balanced hcreate
  refine ⟨_, run c, hcreate, hvalid, by decide, by decide, by decide, rfl, ?_⟩
  intro first second
  obtain ⟨records, hrun, -⟩ := run_of_no_failure (s := (⟨_, ⟨⟩⟩ : Rig State NoClock)) hvalid
    (firstFailure?_calls hsuits hs (by decide)) #[]
  have hok : first.1 = .ok records := congrArg Prod.fst hrun
  obtain ⟨hf, -⟩ := exists_ready_of_ok hvalid hok
  obtain ⟨l, hleft⟩ := balanced_after_run (c := c) (s := (⟨_, ⟨⟩⟩ : Rig State NoClock)) hs #[]
  have hused : l.entries.length = 2 := by
    rw [← hleft.table.used, used_after_run (s := (⟨_, ⟨⟩⟩ : Rig State NoClock)) hsuits hs hvalid hf #[]]
    decide
  obtain ⟨chunk, hfailed, -⟩ := run_of_no_room (s := (⟨_, ⟨⟩⟩ : Rig State NoClock)) hsuits hleft hvalid
    (by rw [hused]; decide) #[]
  exact ⟨⟨records, hok⟩, chunk, hfailed⟩

end DecodeBench.Sweep
