import DecodeBench.Proofs.Plan.Steps

/-! The phases of a runner show in what it warns of and nowhere else: leave them out, and a run is the
steps of its trial carried out on the batch. -/

namespace DecodeBench

namespace Step

def enter (_ : Trial.Phase) : Step Unit := pure ()

lemma keeps_enter (phase : Trial.Phase) : (enter phase).Keeps := keeps_pure ()

end Step

namespace Trial

def RunStep.plan {α : Type} (x : RunStep α) (r : Runner) : Plan (Except Failure α × Runner) := x.run.run r

def bare {α : Type} (x : Plan (α × Runner)) : Plan (α × Batch) := x.bind fun a => .done (a.1, a.2.batch)

def RunStep.Bares {α : Type} (x : RunStep α) (y : Step α) : Prop := ∀ r, bare (x.plan r) = y.plan r.batch

namespace RunStep.Bares

variable {α β : Type}

lemma pure (a : α) : Bares (pure a) (pure a) := fun _ => rfl

lemma bind {x : RunStep α} {y : Step α} {f : α → RunStep β} {g : α → Step β} (h : x.Bares y)
    (hf : ∀ a, (f a).Bares (g a)) : (x >>= f).Bares (y >>= g) := by
  intro r
  have hrun : (x >>= f).plan r = (x.plan r).bind fun
      | (.ok a, r') => (f a).plan r'
      | (.error e, r') => .done (.error e, r') := by
    change Plan.bind _ _ = _
    congr 1
    funext ⟨a, r'⟩
    cases a <;> rfl
  rw [hrun, Step.plan_bind, ← h r, bare, bare, Plan.bind_assoc, Plan.bind_assoc]
  congr 1
  funext ⟨a, r'⟩
  cases a with
  | ok a => exact hf a r'
  | error e => rfl

lemma onBatch (x : Step α) : (RunStep.onBatch x).Bares x := by
  intro r
  change bare ((x.plan r.batch).bind fun a => .done (a.1, { r with batch := a.2 })) = _
  rw [bare, Plan.bind_assoc]
  exact Plan.bind_done _

lemma enter (phase : Phase) : (RunStep.enter phase).Bares (Step.enter phase) := fun _ => rfl

end RunStep.Bares

open RunStep

variable {o : TrialOptions} {p : GridPoint} {repeatIndex : Nat}

lemma sharePrompt_bares : Bares (sharePrompt RunStep.enter p o) (sharePrompt Step.enter p o) := by
  rw [sharePrompt, sharePrompt]
  split
  · refine (Bares.enter _).bind fun _ => ?_
    split
    · exact .onBatch _
    · exact .pure ()
  · exact .pure ()

lemma generate_bares (count generated : Nat) :
    Bares (generate RunStep.enter p o count generated) (generate Step.enter p o count generated) := by
  induction count generalizing generated with
  | zero => exact .pure ()
  | succ count ih =>
    refine (Bares.enter _).bind fun _ => ?_
    refine (Bares.onBatch _).bind fun _ => ?_
    refine (Bares.onBatch _).bind fun _ => ?_
    refine (Bares.onBatch _).bind fun _ => ?_
    exact ih (generated + 1)

lemma measure_bares : Bares (measure RunStep.enter o p repeatIndex) (measure Step.enter o p repeatIndex) := by
  refine (Bares.enter _).bind fun _ => ?_
  refine (Bares.onBatch _).bind fun _ => ?_
  refine (Bares.onBatch _).bind fun _ => ?_
  refine (Bares.enter _).bind fun _ => ?_
  refine (Bares.onBatch _).bind fun _ => ?_
  refine (Bares.onBatch _).bind fun _ => ?_
  refine (Bares.enter _).bind fun _ => ?_
  refine (Bares.onBatch _).bind fun _ => ?_
  refine (Bares.onBatch _).bind fun _ => ?_
  refine sharePrompt_bares.bind fun _ => ?_
  refine (Bares.onBatch _).bind fun _ => ?_
  refine (Bares.onBatch _).bind fun _ => ?_
  refine (Bares.onBatch _).bind fun _ => ?_
  refine (generate_bares _ _).bind fun _ => ?_
  refine (Bares.onBatch _).bind fun _ => ?_
  exact .pure _

def Phase.of : Except Failure Measurement → Phase
  | .ok _ => .done
  | .error _ => .aborted

lemma finish_batch (r : Runner) (outcome : Except Failure Measurement) : (r.finish outcome).batch = r.batch := by
  cases outcome <;> rfl

lemma finish_phase (r : Runner) (outcome : Except Failure Measurement) : (r.finish outcome).phase = .of outcome := by
  cases outcome <;> rfl

variable {r : Runner}

lemma run_bare : bare (r.run o p repeatIndex) = (measure Step.enter o p repeatIndex).plan r.batch := by
  rw [← measure_bares r]
  change bare (Plan.bind _ _) = _
  rw [bare, Plan.bind_assoc]
  congr 1
  funext ⟨outcome, r'⟩
  exact congrArg (fun b => Plan.done (outcome, b)) (finish_batch r' outcome)

lemma attempt_plan (b : Batch) : (attempt o p repeatIndex).plan b =
    ((measure Step.enter o p repeatIndex).plan b).bind fun m => .done (.ok m.1, m.2) := by
  rw [← run_bare (r := { batch := b }), bare, Plan.bind_assoc]
  rfl

section Runs

variable {σ : Type} [Testbed σ] (s : σ) (rs : Array Record)

lemma run_eq : let ran := (r.run o p repeatIndex).run s rs
    ((ran.1.1, ran.1.2.batch), ran.2) = ((measure Step.enter o p repeatIndex).plan r.batch).run s rs := by
  rw [← run_bare, bare, Plan.run_bind]
  rfl

lemma run_answer : ((r.run o p repeatIndex).run s rs).1.1 =
    (((measure Step.enter o p repeatIndex).plan r.batch).run s rs).1.1 := by
  rw [← run_eq]

lemma run_calls : (r.run o p repeatIndex).calls s = ((measure Step.enter o p repeatIndex).plan r.batch).calls s := by
  rw [← run_bare, bare, Plan.calls_bind _ _ _ #[]]
  exact (List.append_nil _).symm

lemma run_phase : let ran := (r.run o p repeatIndex).run s rs
    ran.1.2.phase = .of ran.1.1 := by
  intro ran
  have hran : ran = ((measure RunStep.enter o p repeatIndex).plan r |>.bind fun m => .done (m.1, m.2.finish m.1)).run s rs :=
    rfl
  rw [hran, Plan.run_bind]
  exact finish_phase _ _

end Runs

end Trial

end DecodeBench
