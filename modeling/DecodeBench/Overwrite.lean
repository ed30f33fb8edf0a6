/-! Arrays written over from one place on. -/

namespace DecodeBench

def overwritten {α : Type} (xs : Array α) (start : Nat) : List α → Array α
  | [] => xs
  | x :: new => overwritten (xs.setIfInBounds start x) (start + 1) new

end DecodeBench
