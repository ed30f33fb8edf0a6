import DecodeBench.Decimal.Binary64
import DecodeBench.Decimal.Digits

/-! Decimal text with a fixed number of places. -/

namespace DecodeBench.Decimal

def roundHalfEven (num den : Nat) : Nat :=
  let q := num / den
  let r := num % den
  if 2 * r < den then q else if 2 * r > den then q + 1 else q + q % 2

def powerRatio (base : Nat) (e : Int) : Nat × Nat := (base.pow e.toNat, base.pow (-e).toNat)

namespace FixedPlaces

def scaled (places significand : Nat) (exponent : Int) : Nat :=
  let (a, b) := powerRatio 2 exponent
  roundHalfEven (significand * a * Nat.pow 10 places) b

def digitsText (places count : Nat) : String :=
  text (digits (count / Nat.pow 10 places)) ++ "." ++ text (padded places (count % Nat.pow 10 places))

def render (places : Nat) (x : Float) : String :=
  match Binary64.ofFloat x with
  | .finite negative m e => (if negative then "-" else "") ++ digitsText places (scaled places m e)
  | .infinite negative => if negative then "-inf" else "inf"
  | .notANumber => "NaN"

end FixedPlaces

end DecodeBench.Decimal
