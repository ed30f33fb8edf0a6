/-! Double-precision numbers taken apart into sign, significand and power of two. -/

namespace DecodeBench.Decimal

inductive Binary64 where
  /-- The number `significand * 2 ^ exponent`, with its sign. -/
  | finite (negative : Bool) (significand : Nat) (exponent : Int)
  | infinite (negative : Bool)
  | notANumber
  deriving DecidableEq, Repr

namespace Binary64

def fractionBits : Nat := 52

def topField : Nat := 2047

def lowestExponent : Int := -1074

def ofBits (bits : UInt64) : Binary64 :=
  let b := bits.toNat
  let negative := b / Nat.pow 2 63 == 1
  let field := b / Nat.pow 2 fractionBits % Nat.pow 2 11
  let fraction := b % Nat.pow 2 fractionBits
  if field = topField then if fraction = 0 then .infinite negative else .notANumber
  else if field = 0 then .finite negative fraction lowestExponent
  else .finite negative (Nat.pow 2 fractionBits + fraction) (lowestExponent + (field - 1))

def ofFloat (x : Float) : Binary64 := ofBits x.toBits

end Binary64

end DecodeBench.Decimal
