import DecodeBench.Proofs.Sweep.Calls
import DecodeBench.Proofs.Trial.Independence

/-! On one engine every point of a sweep is reported as if it were the only one: neither the points
before it nor what the engine did before the sweep shows in its block of records. -/

namespace DecodeBench.Sweep

open Testbed Transformer Trial

def Config.soloBlock (c : Config) (t : Terms) (p : GridPoint) : List (GridPoint × Nat × (Nat ⊕ SkipReason)) :=
  match c.admits p, (solo t (.empty c.batchCapacity 1) c.trialOptions p).1.1 with
  | true, .error (.decodeFailed chunk status) => [(p, p.requiredSlots c.shared, .inr (.decodeFailed chunk status))]
  | _, _ => c.headlines p

variable {κ : Type} [Clock κ]

structure Bench.Sound (t : Terms) (c : Config) (b : Bench (Rig State κ)) : Prop where
  alike : (Batch.empty c.batchCapacity 1).Alike b.batch
  balanced : ∃ l, b.bed.engine.Balanced t l

variable {t t' : Terms} {c : Config} {p : GridPoint} {b b' : Bench (Rig State κ)}

lemma Bench.Sound.trial (h : b.Sound t c) (index : Nat) : (b.trial c.trialOptions p index).2.Sound t c := by
  obtain ⟨l, hl⟩ := h.balanced
  refine ⟨h.alike.trans (Bench.trial_alike index), ?_⟩
  rw [Bench.trial_eq]
  dsimp only
  rw [Plan.run_bed]
  exact ⟨_, hl.after_engine _⟩

lemma Bench.Sound.trial_solo (h : b.Sound t c) (ht : t.Alike t') (index : Nat) :
    (∃ m m', (b.trial c.trialOptions p index).1 = .ok m ∧
        (solo t' (.empty c.batchCapacity 1) c.trialOptions p).1.1 = .ok m' ∧ Timed c.trialOptions p index m) ∨
      ∃ e, (b.trial c.trialOptions p index).1 = .error e ∧
        (solo t' (.empty c.batchCapacity 1) c.trialOptions p).1.1 = .error e := by
  obtain ⟨l, hl⟩ := h.balanced
  rw [Bench.trial_eq]
  exact (measure_solo hl ht h.alike index #[]).1.answers

lemma Trials.sound {count index : Nat} {ms : List Measurement} {failure : Option (Nat × Int)}
    (h : Trials c.trialOptions p count index b ms failure b') (hb : b.Sound t c) : b'.Sound t c := by
  induction h with
  | enough => exact hb
  | @ok count index b b₁ b₂ m ms failure trial _ ih =>
    have hb₁ := hb.trial (p := p) index
    rw [trial] at hb₁
    exact ih hb₁
  | @failed count index chunk status b b₁ trial =>
    have hb₁ := hb.trial (p := p) index
    rw [trial] at hb₁
    exact hb₁

lemma Trials.of_solo_ok {count index : Nat} {ms : List Measurement} {failure : Option (Nat × Int)}
    (h : Trials c.trialOptions p count index b ms failure b') (hb : b.Sound t c) (ht : t.Alike t') {m' : Measurement}
    (hsolo : (solo t' (.empty c.batchCapacity 1) c.trialOptions p).1.1 = .ok m') :
    (ms.map Record.trial).map headline =
      (List.range' index count).map (fun k => (p, p.requiredSlots c.shared, .inl k)) ∧ failure = none := by
  induction h with
  | enough => exact ⟨rfl, rfl⟩
  | @ok count index b b₁ b₂ m ms failure trial _ ih =>
    have hb₁ := hb.trial (p := p) index
    rcases hb.trial_solo (p := p) ht index with ⟨m₁, _, hm₁, -, htimed⟩ | ⟨e, -, he⟩
    · rw [trial] at hm₁ hb₁
      cases hm₁
      obtain ⟨_, _, rfl⟩ := htimed
      obtain ⟨hrest, hnone⟩ := ih hb₁
      refine ⟨?_, hnone⟩
      rw [List.map_cons, List.map_cons, hrest, List.range'_succ, List.map_cons]
      rfl
    · cases hsolo.symm.trans he
  | @failed count index chunk status b b₁ trial =>
    rcases hb.trial_solo (p := p) ht index with ⟨_, _, hm, -, -⟩ | ⟨e, -, he⟩
    · rw [trial] at hm
      cases hm
    · cases hsolo.symm.trans he

lemma Trials.of_solo_failed {count index : Nat} {ms : List Measurement} {failure : Option (Nat × Int)}
    (h : Trials c.trialOptions p count index b ms failure b') (hcount : count ≠ 0) (hb : b.Sound t c) (ht : t.Alike t')
    {e : Failure} (hsolo : (solo t' (.empty c.batchCapacity 1) c.trialOptions p).1.1 = .error e) :
    ms = [] ∧ ∃ chunk status, e = .decodeFailed chunk status ∧ failure = some (chunk, status) := by
  cases h with
  | enough => exact absurd rfl hcount
  | ok trial =>
    rcases hb.trial_solo (p := p) ht index with ⟨_, _, -, hok, -⟩ | ⟨e', he', -⟩
    · cases hsolo.symm.trans hok
    · rw [trial] at he'
      cases he'
  | failed trial =>
    rcases hb.trial_solo (p := p) ht index with ⟨_, _, hm, -, -⟩ | ⟨e', he', hsolo'⟩
    · rw [trial] at hm
      cases hm
    · rw [trial] at he'
      cases he'
      cases hsolo.symm.trans hsolo'
      exact ⟨rfl, _, _, rfl, rfl⟩

lemma Sequel.of_skip {succeeded : Nat} {failure : Option (Nat × Int)} {rest : List Record} {end? : Option Failure}
    (h : Sequel c p succeeded failure rest end?) (hskip : c.failurePolicy = .skipGridPoint) : end? = .none ∧
      rest.map headline = failure.toList.map fun f => (p, p.requiredSlots c.shared, .inr (.decodeFailed f.1 f.2)) := by
  cases h with
  | none => exact ⟨rfl, rfl⟩
  | skipped => exact ⟨rfl, rfl⟩
  | aborted _ policy => cases hskip.symm.trans policy

lemma Block.of_solo {rs : List Record} {end? : Option Failure} (h : Block c p b rs end? b')
    (hskip : c.failurePolicy = .skipGridPoint) (hrepeats : c.repeatCount ≠ 0) (hb : b.Sound t c) (ht : t.Alike t') :
    b'.Sound t c ∧ end? = none ∧ rs.map headline = c.soloBlock t' p := by
  rw [Config.soloBlock]
  cases h with
  | rejected verdict =>
    have hv : c.admits p = false := verdict
    rw [hv, Config.headlines, hv]
    exact ⟨hb, rfl, rfl⟩
  | admitted verdict trials labels sequel =>
    have hv : c.admits p = true := verdict
    obtain ⟨hend, hrest⟩ := sequel.of_skip hskip
    refine ⟨trials.sound hb, hend, ?_⟩
    rw [List.map_append, hrest, hv]
    cases hsolo : (solo t' (.empty c.batchCapacity 1) c.trialOptions p).1.1 with
    | ok m' =>
      obtain ⟨hheadlines, rfl⟩ := trials.of_solo_ok hb ht hsolo
      rw [hheadlines, ← List.range_eq_range', Config.headlines, if_pos hv]
      exact List.append_nil _
    | error e =>
      obtain ⟨rfl, chunk, status, rfl, rfl⟩ := trials.of_solo_failed hrepeats hb ht hsolo
      rfl

lemma Blocks.of_solo {ps : List GridPoint} {blocks : List (List Record)} {end? : Option Failure}
    (h : Blocks c ps b blocks end? b') (hskip : c.failurePolicy = .skipGridPoint) (hrepeats : c.repeatCount ≠ 0)
    (hb : b.Sound t c) (ht : t.Alike t') : end? = none ∧ blocks.flatten.map headline = ps.flatMap (c.soloBlock t') := by
  induction h with
  | done => exact ⟨rfl, rfl⟩
  | next block _ ih =>
    obtain ⟨hb₁, -, hheadlines⟩ := block.of_solo hskip hrepeats hb ht
    obtain ⟨hend, hrest⟩ := ih hb₁
    refine ⟨hend, ?_⟩
    rw [List.flatten_cons, List.map_append, hheadlines, hrest, List.flatMap_cons]
  | aborted block =>
    obtain ⟨-, hnone, -⟩ := block.of_solo hskip hrepeats hb ht
    cases hnone

lemma Ready.sound {s : Rig State κ} (h : Ready c s b) (hs : ∃ l, s.engine.Balanced t l) : b.Sound t c := by
  refine ⟨h.alike, ?_⟩
  obtain ⟨l, hl⟩ := hs
  cases h with
  | cold => exact ⟨l, hl⟩
  | warm _ ran =>
    have hbed := Plan.run_bed ((warmUp (min c.warmupTokens c.cacheBudget) c.chunkSize).plan (.empty c.batchCapacity 1)) s #[]
    rw [ran] at hbed
    dsimp only at hbed
    rw [hbed]
    exact ⟨_, hl.after_engine _⟩

lemma Ready.run_solo {s : Rig State κ} (h : Ready c s b) (hvalid : c.validate = .ok ())
    (hskip : c.failurePolicy = .skipGridPoint) (hs : ∃ l, s.engine.Balanced t l) (ht : t.Alike t') (before : Array Record) :
    ∃ records, ((run c).run s before).1 = .ok records ∧ ((run c).run s before).2.2 = before ++ records.toArray ∧
      records.map headline = c.points.flatMap (c.soloBlock t') := by
  obtain ⟨blocks, end?, b', hblocks, hrun⟩ := h.run_eq hvalid before
  obtain ⟨-, -, -, -, hrepeats, -, -⟩ := Config.fault?_eq_none.1 (Config.fault?_of_valid hvalid)
  obtain ⟨rfl, hheadlines⟩ := hblocks.of_solo hskip hrepeats (h.sound hs) ht
  rw [hrun]
  exact ⟨blocks.flatten, rfl, rfl, hheadlines⟩

lemma Config.soloBlock_of_rejected (hv : c.admits p = false) (t : Terms) :
    c.soloBlock t p = [(p, p.requiredSlots c.shared, .inr .budgetExceeded)] := by
  rw [soloBlock, hv, headlines, hv]
  rfl

lemma Config.soloBlock_of_admitted (hv : c.admits p = true) (t : Terms) :
    c.soloBlock t p = (List.range c.repeatCount).map (fun k => (p, p.requiredSlots c.shared, .inl k)) ∨
      ∃ chunk status, c.soloBlock t p = [(p, p.requiredSlots c.shared, .inr (.decodeFailed chunk status))] := by
  have hheadlines : c.headlines p = (List.range c.repeatCount).map (fun k => (p, p.requiredSlots c.shared, .inl k)) := by
    rw [headlines, if_pos hv]
  rw [soloBlock, hv, hheadlines]
  split
  · exact .inr ⟨_, _, rfl⟩
  · exact .inl rfl

lemma solo_answer (t : Terms) {o : TrialOptions} {capacity : Nat} (ids : Nat) (hl : o.chunkSize ≠ 0)
    (hprompt : p.promptLength * p.promptCopies o.shared ≤ capacity) (hstep : 0 < p.genLength → p.parallelism ≤ capacity) :
    (∃ m, (solo t (.empty capacity ids) o p).1.1 = .ok m) ∨
      ∃ chunk status, (solo t (.empty capacity ids) o p).1.1 = .error (.decodeFailed chunk status) := by
  have hholds : Holds (.empty capacity ids) o p := ⟨hprompt, hstep, (Batch.Alike.refl (.empty capacity ids)).stride_pos⟩
  have hanswer := Bench.trial_answer (b := ⟨_, (⟨⟨t, {}⟩, ⟨⟩⟩ : Rig Account NoClock)⟩) hl hholds 0
  rw [Bench.trial_eq] at hanswer
  rcases hanswer with ⟨m, hm, -, -⟩ | hfailed
  · exact .inl ⟨m, hm⟩
  · exact .inr hfailed

theorem outcomes_do_not_depend_on_the_past (d : Model.Dimensions) (limits : Limits)
    (completes : Work → Transformer.Stage → Bool) :
    (∀ c : Config, c.failurePolicy = .skipGridPoint →
      ∃ block : GridPoint → List (GridPoint × Nat × (Nat ⊕ SkipReason)),
        (∀ p, c.admits p = false → block p = [(p, p.requiredSlots c.shared, .inr .budgetExceeded)]) ∧
        (∀ p, c.admits p = true →
          block p = (List.range c.repeatCount).map (fun k => (p, p.requiredSlots c.shared, .inl k)) ∨
            ∃ chunk status, block p = [(p, p.requiredSlots c.shared, .inr (.decodeFailed chunk status))]) ∧
        ∀ promptLengths genLengths parallelism : List Nat,
          let c' : Config := { c with promptLengths, genLengths, parallelism }
          c'.validate = .ok () →
            (plan? c' = none ↔ 2 ^ 63 ≤ 8 * max c.cacheBudget c.warmupTokens) ∧
            ∀ plan, plan? c' = some plan → ∀ engine : State, engine.Reachable d limits completes →
            ∀ {κ : Type} [Clock κ] (clock : κ) (before : Array Record),
              let start : Rig State κ := ⟨engine, clock⟩
              let ran := plan.run start before
              (∃ b, Ready c' start b) → ∃ records, ran.1 = .ok records ∧ ran.2.2 = before ++ records.toArray ∧
                records.map headline = c'.points.flatMap block) ∧
    ∀ (o : TrialOptions) (p : GridPoint) (repeatIndex capacity ids : Nat),
      ∃ (answer : Except Failure (GridPoint × Nat × (Nat ⊕ SkipReason))) (cells : Array Cache.Cell) (used : Nat)
        (gain : Statistics),
        (o.chunkSize ≠ 0 → p.promptLength * p.promptCopies o.shared ≤ capacity →
          (0 < p.genLength → p.parallelism ≤ capacity) →
          (∃ h, answer = .ok h) ∨ ∃ chunk status, answer = .error (.decodeFailed chunk status)) ∧
        ∀ engine : State, engine.Reachable d limits completes →
        ∀ {κ : Type} [Clock κ] (clock : κ) (before : Array Record) (r : Runner), (Batch.empty capacity ids).Alike r.batch →
          let ran := (r.run o p repeatIndex).run (⟨engine, clock⟩ : Rig State κ) before
          (ran.1.1.map fun m => headline (.trial m)) = answer ∧ ran.2.1.engine.table.cells = cells ∧
            ran.2.1.engine.table.used = used ∧ ran.2.1.engine.statistics = engine.statistics.add gain := by
  let t' : Terms := .of d limits completes
  refine ⟨fun c hskip => ?_, fun o p repeatIndex capacity ids => ?_⟩
  · refine ⟨c.soloBlock t', fun p hv => c.soloBlock_of_rejected hv t', fun p hv => c.soloBlock_of_admitted hv t', ?_⟩
    intro promptLengths genLengths parallelism c' hvalid
    refine ⟨by rw [plan?_eq_none, Config.fault?_of_valid hvalid, and_iff_right rfl], ?_⟩
    intro plan hplan engine hengine κ _ clock before start ran
    rintro ⟨b, hready⟩
    obtain ⟨t, l, hs, ht⟩ := hengine.exists_ledger
    obtain rfl := eq_run_of_plan? hplan
    exact hready.run_solo hvalid hskip ⟨l, hs⟩ ht before
  · let alone := solo t' (.empty capacity ids) o p
    refine ⟨alone.1.1.map fun _ => (p, p.requiredSlots o.shared, .inl repeatIndex), alone.2.1.engine.cells,
      alone.2.1.engine.ledger.entries.length, alone.2.1.engine.ledger.statistics, fun hl hprompt hstep => ?_, ?_⟩
    · rcases solo_answer t' ids hl hprompt hstep with ⟨m, hm⟩ | ⟨chunk, status, hfailed⟩
      · exact .inl ⟨_, congrArg _ hm⟩
      · exact .inr ⟨chunk, status, congrArg _ hfailed⟩
    · intro engine hengine κ _ clock before r halike ran
      obtain ⟨t, l, hs, ht⟩ := hengine.exists_ledger
      obtain ⟨hend, hkeeps⟩ := measure_solo (s := ⟨engine, clock⟩) (o := o) (p := p) hs ht halike repeatIndex before
      rw [← Trial.run_eq] at hend hkeeps
      refine ⟨?_, hkeeps.cells, hkeeps.used, hkeeps.statistics⟩
      dsimp only [alone]
      rcases hend.answers with ⟨_, _, hm, hm', _, _, rfl⟩ | ⟨e, he, he'⟩
      · rw [hm', show ran.1.1 = _ from hm]
        rfl
      · rw [he', show ran.1.1 = _ from he]
        rfl

theorem two_engines_report_two_points_alike :
    let limits : Limits := { cells := 3, batch := 2 }
    let c : Config := {
      promptLengths := [1], genLengths := [1], parallelism := [1, 2, 1], repeatCount := 2
      cacheBudget := 4, warmupTokens := 0, failurePolicy := .skipGridPoint }
    let r : Runner := { batch := .empty 2 1 }
    ∃ single double, State.create .tiny limits processor .binary32 = .ok single ∧
      State.create .tiny limits processor .binary64 = .ok double ∧
      (∃ plan records, plan? c = some plan ∧ (plan.run (⟨single, ⟨⟩⟩ : Rig State NoClock) #[]).1 = .ok records ∧
        ∃ one two, records.map headline = one ++ (two ++ (one ++ []))) ∧
      let warm : State := Engine.after double [.decode (.ofList 1 [⟨9, 0, [0], true⟩])]
      let ran := (r.run {} ⟨1, 1, 2⟩ 0).run (⟨single, ⟨⟩⟩ : Rig State NoClock) #[]
      let ran' := (r.run {} ⟨1, 1, 2⟩ 0).run (⟨warm, {}⟩ : Rig State SteppingClock) #[]
      (ran.1.1.map fun m => headline (.trial m)) = (ran'.1.1.map fun m => headline (.trial m)) ∧
        ran.2.1.engine.table.cells = ran'.2.1.engine.table.cells := by
  intro limits c r
  have hsingle : State.create .tiny { cells := 3, batch := 2 } processor .binary32 = .ok _ := rfl
  have hdouble : State.create .tiny { cells := 3, batch := 2 } processor .binary64 = .ok _ := rfl
  have hplan : plan? c = some (run c) := rfl
  obtain ⟨hsweeps, htrials⟩ := outcomes_do_not_depend_on_the_past .tiny limits (processor.completes .binary32)
  refine ⟨_, _, hsingle, hdouble, ?_, ?_⟩
  · obtain ⟨block, -, -, hblocks⟩ := hsweeps c rfl
    obtain ⟨records, hok, -, hheadlines⟩ :=
      (hblocks [1] [1] [1, 2, 1] rfl).2 _ hplan _ (.intro rfl hsingle []) (⟨⟩ : NoClock) #[] ⟨_, .cold rfl⟩
    exact ⟨_, records, hplan, hok, block ⟨1, 1, 1⟩, block ⟨1, 1, 2⟩, hheadlines⟩
  · obtain ⟨answer, cells, used, gain, -, halike⟩ := htrials {} ⟨1, 1, 2⟩ 0 2 1
    obtain ⟨hanswer, hcells, -⟩ := halike _ (.intro rfl hsingle []) (⟨⟩ : NoClock) #[] r (.refl _)
    obtain ⟨hanswer', hcells', -⟩ := halike _ (.intro rfl hdouble [_]) ({} : SteppingClock) #[] r (.refl _)
    exact ⟨hanswer.trans hanswer'.symm, hcells.trans hcells'.symm⟩

theorem formats_without_products_fail_where_others_do_not :
    let r : Runner := { batch := .empty 1 1 }
    ∃ single half, State.create .tiny { cells := 2, batch := 1 } processor .binary32 = .ok single ∧
      State.create .tiny { cells := 2, batch := 1 } processor .bfloat16 = .ok half ∧
      (∃ m, ((r.run {} ⟨1, 1, 1⟩ 0).run (⟨single, ⟨⟩⟩ : Rig State NoClock) #[]).1.1 = .ok m) ∧
      ((r.run {} ⟨1, 1, 1⟩ 0).run (⟨half, ⟨⟩⟩ : Rig State NoClock) #[]).1.1 = .error (.decodeFailed 0 (-2)) := by
  intro r
  have hsingle : State.create .tiny { cells := 2, batch := 1 } processor .binary32 = .ok _ := rfl
  have hhalf : State.create .tiny { cells := 2, batch := 1 } processor .bfloat16 = .ok _ := rfl
  have hsolo : ∃ m, (solo ⟨.tiny, { cells := 2, batch := 1 }, processor, .binary32⟩ (.empty 1 1) {} ⟨1, 1, 1⟩).1.1 = .ok m :=
    ⟨_, rfl⟩
  have hsolo' : (solo ⟨.tiny, { cells := 2, batch := 1 }, processor, .bfloat16⟩ (.empty 1 1) {} ⟨1, 1, 1⟩).1.1 =
      .error (.decodeFailed 0 (-2)) := rfl
  refine ⟨_, _, hsingle, hhalf, ?_, ?_⟩
  · obtain ⟨m', hsolo⟩ := hsolo
    obtain ⟨hend, -⟩ := measure_solo (s := (⟨_, ⟨⟩⟩ : Rig State NoClock)) (State.create_balanced hsingle) ⟨rfl, rfl, rfl⟩
      (.refl (.empty 1 1)) 0 #[]
    rw [Trial.run_answer]
    rcases hend.answers with ⟨m, _, hok, -⟩ | ⟨e, -, he⟩
    · exact ⟨m, hok⟩
    · cases hsolo.symm.trans he
  · obtain ⟨hend, -⟩ := measure_solo (s := (⟨_, ⟨⟩⟩ : Rig State NoClock)) (State.create_balanced hhalf) ⟨rfl, rfl, rfl⟩
      (.refl (.empty 1 1)) 0 #[]
    rw [Trial.run_answer]
    rcases hend.answers with ⟨_, _, -, hok, -⟩ | ⟨e, he, he'⟩
    · cases hsolo'.symm.trans hok
    · cases hsolo'.symm.trans he'
      exact he

end DecodeBench.Sweep
