import DecodeBench.Batch
import DecodeBench.Proofs.Batch.WindowLists

/-! What can be seen of a batch: all of its requests or a slice of them, whatever was done to the batch before. -/

namespace DecodeBench

inductive Batch.Reached (capacity idsPerRequest : Nat) : Batch → Prop
  | empty : Reached capacity idsPerRequest (.empty capacity idsPerRequest)
  | clear {b : Batch} (h : Reached capacity idsPerRequest b) : Reached capacity idsPerRequest b.clear
  | push {b b' : Batch} {r : Request} (h : Reached capacity idsPerRequest b) (added : b.push r = .ok b') :
      Reached capacity idsPerRequest b'
  | setOutput {b b' : Batch} {i : Nat} {wanted : Bool} (h : Reached capacity idsPerRequest b)
      (changed : b.setOutput? i wanted = some b') : Reached capacity idsPerRequest b'

inductive Window.IsView : Window → Prop
  | whole {capacity idsPerRequest : Nat} {b : Batch} (h : b.Reached capacity idsPerRequest) : IsView b.window
  | slice {w v : Window} {start stop : Nat} (h : IsView w) (cut : w.slice? start stop = some v) : IsView v

lemma Batch.Reached.wellFormed {capacity idsPerRequest : Nat} {b : Batch} (h : b.Reached capacity idsPerRequest) :
    b.window.WellFormed := by
  induction h with
  | empty => exact Window.wellFormed_empty _
  | clear => exact Window.wellFormed_empty _
  | @push b b' r _ added ih =>
    rw [Batch.push] at added
    cases hr : b.refusal? r with
    | some e =>
      rw [hr] at added
      cases added
    | none =>
      rw [hr] at added
      cases added
      rw [Batch.refusal?] at hr
      split_ifs at hr with _ hids
      exact ih.push (Nat.le_of_not_lt hids)
  | setOutput _ changed ih =>
    rw [Batch.setOutput?] at changed
    split_ifs at changed
    cases changed
    exact ih.setOutput _ _

lemma Batch.Reached.foldlM {capacity idsPerRequest : Nat} {b b' : Batch} {rs : List Request}
    (h : b.Reached capacity idsPerRequest) (added : rs.foldlM Batch.push b = .ok b') :
    b'.Reached capacity idsPerRequest := by
  induction rs generalizing b with
  | nil =>
    cases added
    exact h
  | cons r rs ih =>
    rw [List.foldlM_cons] at added
    cases hr : b.push r with
    | error e =>
      rw [hr] at added
      cases added
    | ok b₁ =>
      rw [hr] at added
      exact ih (h.push hr) added

lemma Batch.reached_ofList {capacity idsPerRequest : Nat} {b : Batch} {rs : List Request}
    (h : Batch.ofList capacity idsPerRequest rs = .ok b) : b.Reached capacity idsPerRequest :=
  Reached.empty.foldlM h

lemma Window.slice?_eq_some {w v : Window} {start stop : Nat} (h : w.slice? start stop = some v) :
    start ≤ stop ∧ stop ≤ w.size ∧ v = w.extract start stop := by
  rw [slice?] at h
  split_ifs at h with hbounds
  exact ⟨hbounds.1, hbounds.2, (Option.some.inj h).symm⟩

lemma Window.IsView.wellFormed {w : Window} (h : w.IsView) : w.WellFormed := by
  induction h with
  | whole h => exact h.wellFormed
  | slice _ cut ih =>
    obtain ⟨-, hstop, rfl⟩ := slice?_eq_some cut
    exact ih.extract _ hstop

end DecodeBench
