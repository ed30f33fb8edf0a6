import DecodeBench.Proofs.Sweep.WarmUp

/-! How a sweep can fail: its configuration is refused before anything is done, or a decode fails. The
batch never overflows, since what the warm-up and the admitted points need is at most its capacity. -/

namespace DecodeBench.Sweep

variable {σ : Type} [Testbed σ] {c : Config} {b b' : Bench σ}

lemma Sequel.end_eq {p : GridPoint} {succeeded : Nat} {failure : Option (Nat × Int)} {rest : List Record} {e : Failure}
    (h : Sequel c p succeeded failure rest (some e)) :
    c.failurePolicy = .abortSweep ∧ ∃ chunk status, e = .decodeFailed chunk status := by
  cases h with
  | aborted _ policy => exact ⟨policy, _, _, rfl⟩

lemma Block.end_eq {p : GridPoint} {rs : List Record} {e : Failure} (h : Block c p b rs (some e) b') :
    c.failurePolicy = .abortSweep ∧ ∃ chunk status, e = .decodeFailed chunk status := by
  cases h with
  | admitted _ _ _ sequel => exact sequel.end_eq

lemma Blocks.end_eq {ps : List GridPoint} {blocks : List (List Record)} {end? : Option Failure} {e : Failure}
    (h : Blocks c ps b blocks end? b') (he : end? = some e) :
    c.failurePolicy = .abortSweep ∧ ∃ chunk status, e = .decodeFailed chunk status := by
  induction h with
  | done => cases he
  | next _ _ ih => exact ih he
  | aborted block =>
    cases he
    exact block.end_eq

lemma Config.validate_of_faultless (h : c.fault? = none) : c.validate = .ok () := by
  rw [validate, h]

lemma run_of_faulty {fault : ConfigFault} (h : c.fault? = some fault) : run c = .done (.error (.invalidConfig fault)) := by
  rw [run, Config.validate, h]

variable {s : σ} (before : Array Record)

lemma Ready.answer (hvalid : c.validate = .ok ()) (h : Ready c s b) :
    (∃ records, ((run c).run s before).1 = .ok records) ∨
      c.failurePolicy = .abortSweep ∧ ∃ chunk status, ((run c).run s before).1 = .error (.decodeFailed chunk status) := by
  obtain ⟨blocks, end?, b', hblocks, hrun⟩ := h.run_eq hvalid before
  rw [hrun]
  cases end? with
  | none => exact .inl ⟨_, rfl⟩
  | some e =>
    obtain ⟨hpolicy, chunk, status, rfl⟩ := hblocks.end_eq rfl
    exact .inr ⟨hpolicy, chunk, status, rfl⟩

lemma run_answer (hvalid : c.validate = .ok ()) (s : σ) :
    (∃ records, ((run c).run s before).1 = .ok records) ∨
      ∃ chunk status, ((run c).run s before).1 = .error (.decodeFailed chunk status) := by
  obtain ⟨-, -, hl⟩ := Config.bounds_of_valid hvalid
  cases hf : Testbed.firstFailure? s (warmupCalls c) with
  | none =>
    obtain ⟨b, hready, -⟩ := exists_ready hl hf
    rcases hready.answer before hvalid with hok | ⟨-, hfailed⟩
    · exact .inl hok
    · exact .inr hfailed
  | some status =>
    obtain ⟨on, chunk, batch, bed, hwarmup⟩ := exists_failed_warmup hl hf
    refine .inr ⟨chunk, status, ?_⟩
    rw [run_of_failed_warmup hvalid on (hwarmup before)]

theorem run_fails_only_as_intended (c : Config) (s : σ) (before : Array Record) :
    let faulty := c.promptLengths = [] ∨ c.genLengths = [] ∨ c.parallelism = [] ∨
      (∃ n ∈ c.parallelism, n = 0 ∨ n > c.sequenceLimit) ∨ c.repeatCount = 0 ∨ c.cacheBudget = 0 ∨ c.chunkSize = 0
    (plan? c = none ↔ ¬ faulty ∧ 2 ^ 63 ≤ 8 * max c.cacheBudget c.warmupTokens) ∧
    (∀ plan, plan? c = some plan →
      let answer := (plan.run s before).1
      ((∃ fault, answer = .error (.invalidConfig fault)) ↔ faulty) ∧
      (faulty → plan.calls s = [] ∧ (plan.run s before).2 = (s, before)) ∧
      (¬ faulty → (∃ records, answer = .ok records) ∨ ∃ chunk status, answer = .error (.decodeFailed chunk status)) ∧
      (¬ faulty → c.failurePolicy = .skipGridPoint → (∃ b, Ready c s b) → ∃ records, answer = .ok records)) ∧
    min c.warmupTokens c.cacheBudget ≤ c.batchCapacity ∧
    ∀ p ∈ c.points, (p.admission c.shared c.cacheBudget).isAdmitted = true →
      p.promptLength * p.promptCopies c.shared ≤ c.batchCapacity ∧ (0 < p.genLength → p.parallelism ≤ c.batchCapacity) := by
  intro faulty
  have hfaultless : ¬ faulty ↔ c.fault? = none := by
    rw [Config.fault?_eq_none]
    simp only [faulty]
    grind
  have hfaulty : ∀ h : faulty, ∃ fault, c.fault? = some fault := fun h =>
    Option.ne_none_iff_exists'.1 (mt hfaultless.2 (not_not.2 h))
  refine ⟨by rw [hfaultless, plan?_eq_none], fun plan hplan => ?_, warmup_le_batchCapacity c, fun p _ hadmitted => ?_⟩
  · have hrun := eq_run_of_plan? hplan
    have hanswer : ¬ faulty → _ := fun h => run_answer before (Config.validate_of_faultless (hfaultless.1 h)) s
    subst hrun
    refine ⟨⟨fun ⟨fault, hinvalid⟩ => ?_, fun h => ?_⟩, fun h => ?_, hanswer, fun h hskip ⟨b, hready⟩ => ?_⟩
    · by_contra h
      rcases hanswer h with ⟨_, hok⟩ | ⟨_, _, hfailed⟩
      · cases hinvalid.symm.trans hok
      · cases hinvalid.symm.trans hfailed
    · obtain ⟨fault, hfault⟩ := hfaulty h
      exact ⟨fault, by rw [run_of_faulty hfault, Plan.run]⟩
    · obtain ⟨fault, hfault⟩ := hfaulty h
      rw [run_of_faulty hfault, Plan.run]
      exact ⟨rfl, rfl⟩
    · rcases hready.answer before (Config.validate_of_faultless (hfaultless.1 h)) with hok | ⟨habort, -⟩
      · exact hok
      · cases hskip.symm.trans habort
  · have hneed : p.need c.trialOptions.shared ≤ (Batch.empty c.batchCapacity 1).capacity :=
      Nat.le_trans (GridPoint.need_le_of_admitted hadmitted) (Nat.le_max_left ..)
    have hholds := Trial.holds_of_need_le hneed (Nat.le_refl 1)
    exact ⟨hholds.prompt, hholds.step⟩

theorem skipping_ends_well_without_a_single_decode :
    let c : Config := {
      promptLengths := [2], genLengths := [1], parallelism := [1, 3]
      cacheBudget := 8, warmupTokens := 0, failurePolicy := .skipGridPoint }
    let s : Rig ScriptedEngine NoClock := ⟨{ script := { maxTokens := some 0 } }, ⟨⟩⟩
    plan? c = some (run c) ∧ ∃ records, ((run c).run s #[]).1 = .ok records := by
  intro c s
  have hplan : plan? c = some (run c) := rfl
  obtain ⟨-, hruns, -⟩ := run_fails_only_as_intended c s #[]
  exact ⟨hplan, (hruns (run c) hplan).2.2.2 (by decide) rfl ⟨_, .cold rfl⟩⟩

theorem a_sweep_without_memory_has_no_answer :
    let c : Config := {
      promptLengths := [1], genLengths := [1], parallelism := [1], repeatCount := 1
      cacheBudget := 2 ^ 64 - 1, warmupTokens := 0, failurePolicy := .skipGridPoint }
    let s : Rig ScriptedEngine NoClock := ⟨{ script := {} }, ⟨⟩⟩
    c.fault? = none ∧ ¬ ∃ plan, plan? c = some plan ∧ ((∃ records, (plan.run s #[]).1 = .ok records) ∨
      ∃ chunk status, (plan.run s #[]).1 = .error (.decodeFailed chunk status)) := by
  intro c s
  have hvalid : c.fault? = none := by decide
  have hplan : plan? c = none := plan?_eq_none.2 ⟨hvalid, by decide⟩
  refine ⟨hvalid, ?_⟩
  rintro ⟨plan, hsome, -⟩
  cases hplan.symm.trans hsome

end DecodeBench.Sweep
