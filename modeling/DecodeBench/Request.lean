/-! One token to decode: what a batch is made of. -/

namespace DecodeBench

structure Request where
  token : Nat
  position : Nat
  sequences : List Nat
  wantsLogits : Bool
  deriving DecidableEq, Repr, Inhabited

structure Span where
  first : Nat
  stop : Nat
  deriving DecidableEq, Repr, Inhabited

namespace Span

instance : Membership Nat Span := ⟨fun s p => s.first ≤ p ∧ p < s.stop⟩

instance (p : Nat) (s : Span) : Decidable (p ∈ s) := inferInstanceAs (Decidable (s.first ≤ p ∧ p < s.stop))

end Span

end DecodeBench
