import DecodeBench.Proofs.Plan.Steps

/-! A plan as it looks to someone who does not see all of its records. It makes the same calls and
comes to the same end, so plans that look alike in this way are alike to the testbed. -/

namespace DecodeBench.Plan

variable {α β σ : Type} {omitted : Record → Bool}

def without (omitted : Record → Bool) : Plan α → Plan α
  | .done a => .done a
  | .ask c next => .ask c fun a => (next a).without omitted
  | .emit r next => if omitted r then next.without omitted else .emit r (next.without omitted)

lemma without_bind (p : Plan α) (f : α → Plan β) :
    (p.bind f).without omitted = (p.without omitted).bind fun a => (f a).without omitted := by
  induction p with
  | done a => rfl
  | ask c next ih => simp [bind, without, ih]
  | emit r next ih =>
    simp only [bind, without, ih]
    split <;> rfl

variable [Testbed σ]

lemma calls_without (p : Plan α) (s : σ) : (p.without omitted).calls s = p.calls s := by
  induction p generalizing s with
  | done a => rfl
  | ask c next ih => simp [without, calls, ih]
  | emit r next ih =>
    rw [without, calls, ← ih]
    split <;> rfl

lemma run_without (omitted : Record → Bool) (p : Plan α) (s : σ) (before : Array Record) :
    (p.without omitted).run s (before.filter fun r => !omitted r) =
      ((p.run s before).1, (p.run s before).2.1, (p.run s before).2.2.filter fun r => !omitted r) := by
  induction p generalizing s before with
  | done a => rfl
  | ask c next ih => exact ih _ _ _
  | emit r next ih =>
    have hpush := ih s (before.push r)
    rw [Array.filter_push] at hpush
    rw [without, run, ← hpush]
    cases omitted r <;> rfl

end DecodeBench.Plan
