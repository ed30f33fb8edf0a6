import DecodeBench.Decimal.FixedPlaces

/-! The shortest decimal that reads back as a given double: of all decimals in the interval of real
numbers that round to it, the one on the coarsest power-of-ten grid, and there the nearest. -/

namespace DecodeBench.Decimal.Shortest

/-- The reals that round to a double, in units of a quarter of its last place: from `low` to `high`
around `center`, ends included for an even significand. -/
structure Interval where
  low : Nat
  center : Nat
  high : Nat
  exponent : Int
  closed : Bool
  deriving DecidableEq, Repr

/-- Below a power of two the next double is only half as far away, unless it is subnormal. -/
def interval (m : Nat) (e : Int) : Interval where
  low := if m = Nat.pow 2 Binary64.fractionBits ∧ e > Binary64.lowestExponent then 4 * m - 1 else 4 * m - 2
  center := 4 * m
  high := 4 * m + 2
  exponent := e - 2
  closed := m % 2 == 0

structure Scaled where
  count : Nat
  power : Int
  deriving DecidableEq, Repr, Inhabited

namespace Interval

/-- The multiple of `10 ^ power` in the interval that is nearest to its center, if there is one;
of two that are equally near, the even one. It is one of the two neighbours of the center. -/
def onGrid? (i : Interval) (power : Int) : Option Scaled :=
  let (a₂, b₂) := powerRatio 2 i.exponent
  let (a₁₀, b₁₀) := powerRatio 10 power
  let a := a₂ * b₁₀
  let b := b₂ * a₁₀
  let inside (c : Nat) : Bool :=
    if i.closed then decide (i.low * a ≤ c * b) && decide (c * b ≤ i.high * a)
    else decide (i.low * a < c * b) && decide (c * b < i.high * a)
  let below := i.center * a / b
  let above := below + 1
  let toBelow := i.center * a - below * b
  let toAbove := above * b - i.center * a
  let belowNearer := decide (toBelow < toAbove) || (toBelow == toAbove && below % 2 == 0)
  match inside below, inside above with
  | true, true => some ⟨if belowNearer then below else above, power⟩
  | true, false => some ⟨below, power⟩
  | false, true => some ⟨above, power⟩
  | false, false => none

def topPower (i : Interval) : Int :=
  let (a, b) := powerRatio 2 i.exponent
  if i.center * a ≥ b then (digits (i.center * a / b)).length
  else 1 - ((digits (b / (i.center * a))).length : Int)

end Interval

/-- Seventeen digits always suffice, so the grids below the top power are tried down to the twentieth. -/
def gridCount : Nat := 20

def ofParts (m : Nat) (e : Int) : Scaled :=
  let i := interval m e
  ((List.range gridCount).findSome? fun (k : Nat) => i.onGrid? (i.topPower - Int.ofNat k)).getD default

end DecodeBench.Decimal.Shortest
