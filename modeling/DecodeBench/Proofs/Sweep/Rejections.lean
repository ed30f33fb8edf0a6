import DecodeBench.Proofs.Plan.Omissions
import DecodeBench.Proofs.Sweep.Failures
import DecodeBench.Proofs.Sweep.Totals

/-! Points that are not admitted leave nothing behind but their records. Without these a sweep is the
sweep over the admitted points alone, so two grids with the same admitted points give the same sweep. -/

namespace DecodeBench.Sweep

def isRejection : Record → Bool
  | .skipped ⟨_, _, .budgetExceeded⟩ => true
  | .skipped ⟨_, _, .decodeFailed _ _⟩ => false
  | .trial _ => false

def attempted (rs : List Record) : List Record := rs.filter fun r => !isRejection r

lemma attempted_append (rs rs' : List Record) : attempted (rs ++ rs') = attempted rs ++ attempted rs' :=
  List.filter_append rs rs'

def attempts (x : Step (List Record)) (b : Batch) : Plan (Except Failure (List Record) × Batch) :=
  ((x.plan b).without isRejection).bind fun r => .done (r.1.map attempted, r.2)

lemma attempts_bind_congr {α : Type} (x : Step α) {f g : α → Step (List Record)}
    (h : ∀ a b, attempts (f a) b = attempts (g a) b) (b : Batch) : attempts (x >>= f) b = attempts (x >>= g) b := by
  simp only [attempts, Step.plan_bind, Plan.without_bind, Plan.bind_assoc]
  congr 1
  funext ⟨r, b'⟩
  cases r with
  | ok a => exact h a b'
  | error e => rfl

lemma attempts_append (x y : Step (List Record)) (b : Batch) :
    attempts (x >>= fun rs => y >>= fun rs' => pure (rs ++ rs')) b = ((x.plan b).without isRejection).bind fun
      | (.ok rs, b') => (attempts y b').bind fun r => .done (r.1.map (attempted rs ++ ·), r.2)
      | (.error e, b') => .done (.error e, b') := by
  simp only [attempts, Step.plan_bind, Plan.without_bind, Plan.bind_assoc]
  congr 1
  funext ⟨r, b'⟩
  cases r with
  | error e => rfl
  | ok rs =>
    simp only [Step.andThen, Step.plan_bind, Plan.without_bind, Plan.bind_assoc]
    congr 1
    funext ⟨r, b''⟩
    cases r with
    | error e => rfl
    | ok rs' => simp [Step.plan_pure, Plan.without, Plan.bind, Except.map, attempted_append]

section Points

variable {c : Config} {p : GridPoint}

lemma plan_measurePoint_of_rejected (hv : c.admits p = false) (b : Batch) :
    ((measurePoint c p).plan b).without isRejection =
      .done (.ok [.skipped ⟨p, p.requiredSlots c.shared, .budgetExceeded⟩], b) := by
  have hslots : (p.admission c.shared c.cacheBudget).slots = _ := p.admission_slots
  rw [Config.admits] at hv
  rw [measurePoint]
  cases ha : p.admission c.shared c.cacheBudget with
  | admitted slots =>
    rw [ha] at hv
    cases hv
  | rejected slots =>
    rw [ha] at hslots
    rw [← hslots]
    rfl

lemma attempts_rejected (hv : c.admits p = false) (ps : List GridPoint) (b : Batch) :
    attempts (measurePoints c (p :: ps)) b = attempts (measurePoints c ps) b := by
  apply (attempts_append (measurePoint c p) (measurePoints c ps) b).trans
  rw [plan_measurePoint_of_rejected hv]
  refine Eq.trans ?_ (Plan.bind_done _)
  change (attempts (measurePoints c ps) b).bind _ = _
  congr 1
  funext ⟨r, b'⟩
  cases r <;> rfl

lemma attempts_measurePoints (c : Config) (ps : List GridPoint) (b : Batch) :
    attempts (measurePoints c ps) b = attempts (measurePoints c (ps.filter c.admits)) b := by
  induction ps generalizing b with
  | nil => rfl
  | cons p ps ih =>
    rw [List.filter_cons]
    cases hv : c.admits p with
    | false => rw [attempts_rejected hv, ih, if_neg Bool.false_ne_true]
    | true =>
      rw [if_pos rfl]
      refine (attempts_append (measurePoint c p) (measurePoints c ps) b).trans ?_
      refine Eq.trans ?_ (attempts_append (measurePoint c p) (measurePoints c (ps.filter c.admits)) b).symm
      congr 1
      funext ⟨r, b'⟩
      cases r with
      | error e => rfl
      | ok rs => simp only [ih]

end Points

def Config.over (c : Config) (promptLengths genLengths parallelism : List Nat) : Config :=
  { c with promptLengths, genLengths, parallelism }

section Grids

variable {c : Config} {promptLengths genLengths parallelism : List Nat}

lemma repeatTrials_over (p : GridPoint) (slots count index : Nat) :
    repeatTrials (c.over promptLengths genLengths parallelism) p slots count index =
      repeatTrials c p slots count index := by
  induction count generalizing index with
  | zero => rfl
  | succ count ih =>
    simp only [repeatTrials, ih]
    rfl

lemma measurePoint_over (p : GridPoint) :
    measurePoint (c.over promptLengths genLengths parallelism) p = measurePoint c p := by
  simp only [measurePoint, repeatTrials_over]
  rfl

lemma measurePoints_over (ps : List GridPoint) :
    measurePoints (c.over promptLengths genLengths parallelism) ps = measurePoints c ps := by
  induction ps with
  | nil => rfl
  | cons p ps ih => rw [measurePoints, measurePoint_over, ih, measurePoints]

lemma attempts_body_over (hgrid : (c.over promptLengths genLengths parallelism).admitted = c.admitted) (b : Batch) :
    attempts (body (c.over promptLengths genLengths parallelism)) b = attempts (body c) b := by
  have hpoints : ∀ b, attempts (measurePoints (c.over promptLengths genLengths parallelism)
      (c.over promptLengths genLengths parallelism).points) b = attempts (measurePoints c c.points) b := by
    intro b
    rw [measurePoints_over, attempts_measurePoints, attempts_measurePoints c c.points]
    exact congrArg (fun ps => attempts (measurePoints c ps) b) hgrid
  by_cases hw : c.warmupTokens > 0
  · rw [body, body, if_pos hw]
    refine (congrArg (attempts · b) (if_pos hw)).trans ?_
    exact attempts_bind_congr _ (fun _ => hpoints) b
  · rw [body, body, if_neg hw]
    exact (congrArg (attempts · b) (if_neg hw)).trans (hpoints b)

end Grids

lemma eq_error_of_map_eq {α β : Type} {f : α → β} {x : Except Failure α} {e : Failure}
    (h : x.map f = (Except.error e : Except Failure α).map f) : x = .error e := by
  cases x with
  | ok a => cases h
  | error e' =>
    cases h
    rfl

section Runs

variable {σ : Type} [Testbed σ] {c : Config}

lemma run_attempts (hvalid : c.validate = .ok ()) (s : σ) :
    let ran := (run c).run s #[]
    let shown := (attempts (body c) (.empty c.batchCapacity 1)).run s #[]
    (run c).calls s = (attempts (body c) (.empty c.batchCapacity 1)).calls s ∧
      shown.1.1 = ran.1.map attempted ∧ shown.2.1 = ran.2.1 ∧ shown.2.2 = ran.2.2.filter fun r => !isRejection r := by
  have hshown := Plan.run_without isRejection ((body c).plan (.empty c.batchCapacity 1)) s #[]
  rw [Array.filter_empty] at hshown
  rw [run_of_valid hvalid, attempts, Plan.calls_bind _ _ _ #[], Plan.calls_bind _ _ _ #[], Plan.calls_without,
    Plan.run_bind, Plan.run_bind, hshown]
  exact ⟨rfl, rfl, rfl, rfl⟩

theorem rejections_do_not_interfere (c : Config) (promptLengths genLengths parallelism : List Nat) (s : σ)
    (before : Array Record) :
    let c' := c.over promptLengths genLengths parallelism
    let ran := (run c).run s before
    let ran' := (run c').run s before
    c.validate = .ok () → c'.validate = .ok () → c'.points.filter c'.admits = c.points.filter c.admits →
      (plan? c' = none ↔ plan? c = none) ∧ (run c').calls s = (run c).calls s ∧ ran'.2.1 = ran.2.1 ∧
      (∀ e, ran'.1 = .error e ↔ ran.1 = .error e) ∧ ran'.1.map attempted = ran.1.map attempted ∧
      ∃ records records', ran.2.2 = before ++ List.toArray records ∧ ran'.2.2 = before ++ List.toArray records' ∧
        attempted records' = attempted records := by
  intro c' ran ran' hvalid hvalid' hgrid
  obtain ⟨hcalls, hanswer, hbed, hrecords⟩ := run_attempts hvalid s
  obtain ⟨hcalls', hanswer', hbed', hrecords'⟩ := run_attempts hvalid' s
  have hbody : attempts (body c') (.empty c'.batchCapacity 1) = attempts (body c) (.empty c.batchCapacity 1) :=
    attempts_body_over hgrid _
  rw [hbody] at hcalls' hanswer' hbed' hrecords'
  have hran : ran = _ := Plan.run_records (run c) s before
  have hran' : ran' = _ := Plan.run_records (run c') s before
  have hanswers : ran'.1.map attempted = ran.1.map attempted := by
    rw [hran, hran']
    exact hanswer'.symm.trans hanswer
  refine ⟨?_, hcalls'.trans hcalls.symm, ?_, fun e => ?_, hanswers, ?_⟩
  · have hnone := Config.fault?_of_valid hvalid
    have hnone' := Config.fault?_of_valid hvalid'
    rw [plan?_eq_none, plan?_eq_none, hnone, hnone']
    rfl
  · rw [hran, hran']
    exact hbed'.symm.trans hbed
  · constructor
    · intro he
      rw [he] at hanswers
      exact eq_error_of_map_eq hanswers.symm
    · intro he
      rw [he] at hanswers
      exact eq_error_of_map_eq hanswers
  · refine ⟨((run c).run s #[]).2.2.toList, ((run c').run s #[]).2.2.toList, by rw [hran], by rw [hran'], ?_⟩
    rw [attempted, attempted, ← Array.toList_filter, ← Array.toList_filter, ← hrecords, ← hrecords']

theorem a_grid_and_its_admitted_half :
    let c : Config := {
      promptLengths := [1, 9], genLengths := [1], parallelism := [1], repeatCount := 2
      cacheBudget := 8, chunkSize := 4, warmupTokens := 1 }
    let s : Rig ScriptedEngine NoClock := ⟨{ script := { failAt := [(3, 2)] } }, ⟨⟩⟩
    c.validate = .ok () ∧ (c.over [1] [1] [1]).validate = .ok () ∧
      (c.over [1] [1] [1]).points.filter (c.over [1] [1] [1]).admits = c.points.filter c.admits ∧
      (run (c.over [1] [1] [1])).calls s = (run c).calls s := by
  intro c s
  have hgrid : (c.over [1] [1] [1]).points.filter (c.over [1] [1] [1]).admits = c.points.filter c.admits := by decide
  obtain ⟨-, hcalls, -⟩ := rejections_do_not_interfere c [1] [1] [1] s #[] rfl rfl hgrid
  exact ⟨rfl, rfl, hgrid, hcalls⟩

end Runs

end DecodeBench.Sweep
