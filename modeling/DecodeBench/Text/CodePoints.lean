/-! Sets of characters, given by ranges of code points. -/

namespace DecodeBench.Text

def isWithin (ranges : Array (Nat × Nat)) (c : Char) : Bool :=
  ranges.any fun (first, last) => decide (first ≤ c.toNat) && decide (c.toNat ≤ last)

end DecodeBench.Text
