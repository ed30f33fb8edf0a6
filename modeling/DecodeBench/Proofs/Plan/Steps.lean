import DecodeBench.Proofs.Batch.Filling
import DecodeBench.Proofs.Plan.Calls
import DecodeBench.Trial

/-! The steps of a trial as plans. A step that fails ends what it is a part of, and the batch at its
end is that of the last step before the failure. -/

namespace DecodeBench

namespace Plan

variable {α β σ : Type}

/-- Whatever the testbed answers, the plan hands out no record and ends with an answer that has this property. -/
def Always (P : α → Prop) : Plan α → Prop
  | .done a => P a
  | .ask _ next => ∀ a, (next a).Always P
  | .emit _ _ => False

lemma Always.bind {P : α → Prop} {Q : β → Prop} {p : Plan α} {f : α → Plan β} (h : p.Always P)
    (hf : ∀ a, P a → (f a).Always Q) : (p.bind f).Always Q := by
  induction p with
  | done a => exact hf a h
  | ask c next ih => exact fun a => ih a (h a)
  | emit r next ih => exact h.elim

lemma Always.mono {P Q : α → Prop} {p : Plan α} (h : p.Always P) (hq : ∀ a, P a → Q a) : p.Always Q := by
  induction p with
  | done a => exact hq a h
  | ask c next ih => exact fun a => ih a (h a)
  | emit r next ih => exact h.elim

lemma Always.run [Testbed σ] {P : α → Prop} {p : Plan α} (h : p.Always P) (s : σ) (rs : Array Record) :
    P (p.run s rs).1 ∧ (p.run s rs).2.2 = rs := by
  induction p generalizing s rs with
  | done a => exact ⟨h, rfl⟩
  | ask c next ih => exact ih _ (h _) _ _
  | emit r next ih => exact h.elim

lemma always_submit (ws : List Window) (submitted : Nat) : (submit ws submitted).Always fun _ => True := by
  induction ws generalizing submitted with
  | nil => trivial
  | cons w ws ih =>
    intro status
    dsimp only
    split
    · exact ih (submitted + 1)
    · trivial

end Plan

namespace Step

variable {α β : Type}

def plan (x : Step α) (b : Batch) : Plan (Except Failure α × Batch) := x.run.run b

def andThen (f : α → Step β) : Except Failure α × Batch → Plan (Except Failure β × Batch)
  | (.ok a, b) => (f a).plan b
  | (.error e, b) => .done (.error e, b)

lemma plan_bind (x : Step α) (f : α → Step β) (b : Batch) : (x >>= f).plan b = (x.plan b).bind (andThen f) := by
  have hcont : (fun r : Except Failure α × Batch => (ExceptT.bindCont f r.1).run r.2) = andThen f := by
    funext ⟨r, b⟩
    cases r <;> rfl
  rw [← hcont]
  rfl

lemma plan_pure (a : α) (b : Batch) : (pure a : Step α).plan b = .done (.ok a, b) := rfl

lemma plan_throw (e : Failure) (b : Batch) : (throw e : Step α).plan b = .done (.error e, b) := rfl

lemma plan_wantLast (b : Batch) : wantLast.plan b = .done (.ok (), b.wantLast) := rfl

lemma plan_clearBatch (b : Batch) : clearBatch.plan b = .done (.ok (), b.clear) := rfl

lemma plan_fill (request : Nat → Request) (count : Nat) (b : Batch) :
    (fill request count).plan b = .done (b.fill request count) := rfl

lemma plan_submitBatch (limit : Nat) (b : Batch) : (submitBatch limit).plan b =
    (decodeInChunks b.window limit).bind fun r => .done (r.map fun _ => (), b) := by
  change ((decodeInChunks b.window limit).bind fun r => Plan.done (r, b)).bind _ = _
  rw [Plan.bind_assoc]
  congr 1
  funext r
  cases r <;> rfl

section Runs

variable {σ : Type} [Testbed σ] {x : Step α} {f : α → Step β} {b b' : Batch} {s s' : σ} {rs rs' : Array Record}

lemma run_bind_ok {a : α} (h : (x.plan b).run s rs = ((.ok a, b'), s', rs')) :
    ((x >>= f).plan b).run s rs = ((f a).plan b').run s' rs' := by
  rw [plan_bind, Plan.run_bind, h]
  rfl

lemma run_bind_error {e : Failure} (h : (x.plan b).run s rs = ((.error e, b'), s', rs')) :
    ((x >>= f).plan b).run s rs = ((.error e, b'), s', rs') := by
  rw [plan_bind, Plan.run_bind, h]
  rfl

end Runs

def outcome (x : Step α) (b : Batch) : Plan (Except Failure α) := (x.plan b).bind fun r => .done r.1

lemma outcome_bind (x : Step α) (f : α → Step β) (b : Batch) :
    (x >>= f).outcome b = (x.plan b).bind fun r => (andThen f r).bind fun r => .done r.1 := by
  rw [outcome, plan_bind, Plan.bind_assoc]

lemma outcome_bind_of_done {x : Step α} {f : α → Step β} {b b' : Batch} {a : α}
    (h : x.plan b = .done (.ok a, b')) : (x >>= f).outcome b = (f a).outcome b' := by
  rw [outcome_bind, h]
  rfl

lemma outcome_bind_submitBatch (limit : Nat) (f : Unit → Step β) (b : Batch) :
    (submitBatch limit >>= f).outcome b = (decodeInChunks b.window limit).bind fun
      | .ok _ => (f ()).outcome b
      | .error e => .done (.error e) := by
  rw [outcome_bind, plan_submitBatch, Plan.bind_assoc]
  congr 1
  funext r
  cases r <;> rfl

def Keeps (x : Step α) : Prop := ∀ b, (x.plan b).Always fun r => b.Alike r.2

section Runs

variable {σ : Type} [Testbed σ] {x : Step α}

lemma Keeps.alike (h : x.Keeps) (b : Batch) (s : σ) (rs : Array Record) : b.Alike ((x.plan b).run s rs).1.2 :=
  ((h b).run s rs).1

lemma Keeps.run (h : x.Keeps) (b : Batch) (s : σ) (rs : Array Record) :
    (x.plan b).run s rs = (((x.plan b).run s #[]).1, ((x.plan b).run s #[]).2.1, rs) := by
  rw [Plan.run_records, ((h b).run s #[]).2, Array.append_empty]

end Runs

lemma keeps_bind {x : Step α} {f : α → Step β} (h : x.Keeps) (hf : ∀ a, (f a).Keeps) : (x >>= f).Keeps := by
  intro b
  rw [plan_bind]
  refine (h b).bind fun r hr => ?_
  rcases r with ⟨e | a, b'⟩
  · exact hr
  · exact (hf a b').mono fun r' hr' => hr.trans hr'

lemma keeps_pure (a : α) : (pure a : Step α).Keeps := fun b => .refl b

lemma keeps_call (c : Call) : (call c).Keeps := fun b _ => .refl b

lemma keeps_clearBatch : clearBatch.Keeps := Batch.alike_clear

lemma keeps_wantLast : wantLast.Keeps := Batch.alike_wantLast

lemma keeps_fill (request : Nat → Request) (count : Nat) : (fill request count).Keeps :=
  Batch.alike_fillFrom request count 0

lemma keeps_submitBatch (limit : Nat) : (submitBatch limit).Keeps := by
  intro b
  have hchunks : (decodeInChunks b.window limit).Always fun _ => True := by
    rw [decodeInChunks]
    split
    · trivial
    · exact Plan.always_submit _ 0
  rw [plan_submitBatch]
  exact hchunks.bind fun _ _ => .refl b

end Step

end DecodeBench
