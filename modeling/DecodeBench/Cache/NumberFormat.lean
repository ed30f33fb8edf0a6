/-! Formats in which the rows of a cache are kept, and what becomes of a number stored in one. -/

namespace DecodeBench.Cache

inductive NumberFormat where
  | binary32
  | binary64
  | binary16
  | bfloat16
  | word8
  | word32
  | int64
  deriving DecidableEq, Repr, Inhabited

inductive Extended where
  | whole (n : Int)
  | infinite (negative : Bool)
  deriving DecidableEq, Repr

instance : Inhabited Extended := ⟨.whole 0⟩

structure BinaryFormat where
  precision : Nat
  maxExponent : Nat
  deriving DecidableEq, Repr

namespace BinaryFormat

def dropped (f : BinaryFormat) (n : Nat) : Nat := if n = 0 then 0 else n.log2 + 1 - f.precision

def roundMagnitude (f : BinaryFormat) (n : Nat) : Nat :=
  let unit := Nat.pow 2 (f.dropped n)
  let q := n / unit
  let r := n % unit
  if 2 * r < unit then q * unit else if 2 * r > unit then (q + 1) * unit else (q + q % 2) * unit

def round (f : BinaryFormat) : Extended → Extended
  | .infinite negative => .infinite negative
  | .whole n =>
    let m := f.roundMagnitude n.natAbs
    if m < Nat.pow 2 f.maxExponent then .whole (if n < 0 then -(m : Int) else m) else .infinite (decide (n < 0))

end BinaryFormat

def clamp (low high : Int) : Extended → Extended
  | .infinite negative => .whole (if negative then low else high)
  | .whole n => .whole (max low (min n high))

namespace NumberFormat

def byteSize : NumberFormat → Nat
  | binary32 | word32 => 4
  | binary64 | int64 => 8
  | binary16 | bfloat16 => 2
  | word8 => 1

def convert : NumberFormat → Extended → Extended
  | binary32 => BinaryFormat.round ⟨24, 128⟩
  | binary64 => BinaryFormat.round ⟨53, 1024⟩
  | binary16 => BinaryFormat.round ⟨11, 16⟩
  | bfloat16 => BinaryFormat.round ⟨8, 128⟩
  | word8 => clamp 0 (Int.pow 2 8 - 1)
  | word32 => clamp 0 (Int.pow 2 32 - 1)
  | int64 => clamp (-Int.pow 2 63) (Int.pow 2 63 - 1)

end NumberFormat

class Storable (α : Type) where
  zero : α
  convert : NumberFormat → α → α

instance : Storable Extended := ⟨.whole 0, NumberFormat.convert⟩

/-- Computations are carried out in double precision whatever the format of the cache. -/
instance : Storable Float := ⟨0, fun _ x => x⟩

end DecodeBench.Cache
