import DecodeBench.Decimal.Digits

/-! JSON numerals: how they are written, how they are scanned, and which number one stands for. -/

namespace DecodeBench.Json

open Decimal (Digits)

structure Numeral where
  negative : Bool := false
  whole : Digits
  fraction : Digits := []
  exponent : Option (Bool × Digits) := none
  deriving DecidableEq, Repr, Inhabited

inductive Number where
  | natural (n : Nat)
  | negative (n : Int)
  | real (x : Float)

namespace Numeral

def byteOf (c : Char) : UInt8 := c.toNat.toUInt8

def bytesOf (ds : Digits) : List UInt8 := ds.map fun d => 48 + d.val.toUInt8

def bytes (n : Numeral) : List UInt8 :=
  (if n.negative then [byteOf '-'] else []) ++ bytesOf n.whole ++
  (if n.fraction.isEmpty then [] else byteOf '.' :: bytesOf n.fraction) ++
  match n.exponent with
  | none => []
  | some (negative, ds) => byteOf 'e' :: byteOf (if negative then '-' else '+') :: bytesOf ds

def ofNat (n : Nat) : Numeral := { whole := Decimal.digits n }

def ofInt (i : Int) : Numeral := { negative := decide (i < 0), whole := Decimal.digits i.natAbs }

/-! ### Scanning -/

def digit? (b : UInt8) : Option (Fin 10) :=
  if h : 48 ≤ b.toNat ∧ b.toNat < 58 then some ⟨b.toNat - 48, by omega⟩ else none

def spanDigits : List UInt8 → Digits × List UInt8
  | [] => ([], [])
  | b :: bs =>
    match digit? b with
    | some d => let (ds, rest) := spanDigits bs; (d :: ds, rest)
    | none => ([], b :: bs)

def scanWhole? (bs : List UInt8) : Option (Digits × List UInt8) :=
  match spanDigits bs with
  | ([], _) => none
  | (0 :: _ :: _, _) => none
  | (ds, rest) => some (ds, rest)

def scanFraction? : List UInt8 → Option (Digits × List UInt8)
  | [] => some ([], [])
  | b :: bs =>
    if b = byteOf '.' then
      match spanDigits bs with
      | ([], _) => none
      | (ds, rest) => some (ds, rest)
    else some ([], b :: bs)

def scanSign : List UInt8 → Bool × List UInt8
  | [] => (false, [])
  | b :: bs => if b = byteOf '-' then (true, bs) else if b = byteOf '+' then (false, bs) else (false, b :: bs)

def scanExponent? : List UInt8 → Option (Option (Bool × Digits) × List UInt8)
  | [] => some (none, [])
  | b :: bs =>
    if b = byteOf 'e' ∨ b = byteOf 'E' then
      let (negative, bs) := scanSign bs
      match spanDigits bs with
      | ([], _) => none
      | (ds, rest) => some (some (negative, ds), rest)
    else some (none, b :: bs)

def scan? (negative : Bool) (bs : List UInt8) : Option (Numeral × List UInt8) := do
  let (whole, bs) ← scanWhole? bs
  let (fraction, bs) ← scanFraction? bs
  let (exponent, bs) ← scanExponent? bs
  return ({ negative, whole, fraction, exponent }, bs)

theorem spanDigits_length (bs : List UInt8) : (spanDigits bs).1.length + (spanDigits bs).2.length = bs.length := by
  induction bs with
  | nil => simp [spanDigits]
  | cons b bs ih => unfold spanDigits; split <;> simp; omega

theorem scanWhole?_length {bs rest : List UInt8} {ds : Digits} (h : scanWhole? bs = some (ds, rest)) :
    rest.length < bs.length := by
  have hs := spanDigits_length bs
  unfold scanWhole? at h
  split at h
  · simp at h
  · simp at h
  · rename_i ds' rest' hne _ heq
    simp only [Option.some.injEq, Prod.mk.injEq] at h
    obtain ⟨rfl, rfl⟩ := h
    rw [heq] at hs
    have hpos := List.length_pos_iff.2 hne
    simp only at hs
    omega

theorem scanFraction?_length {bs rest : List UInt8} {ds : Digits} (h : scanFraction? bs = some (ds, rest)) :
    rest.length ≤ bs.length := by
  unfold scanFraction? at h
  split at h
  · simp_all
  · rename_i b bs
    have hs := spanDigits_length bs
    split at h
    · split at h <;> simp_all
      omega
    · simp_all

theorem scanSign_length (bs : List UInt8) : (scanSign bs).2.length ≤ bs.length := by
  unfold scanSign
  split
  · simp
  · split
    · simp
    · split <;> simp

theorem scanExponent?_length {bs rest : List UInt8} {e : Option (Bool × Digits)}
    (h : scanExponent? bs = some (e, rest)) : rest.length ≤ bs.length := by
  unfold scanExponent? at h
  split at h
  · simp_all
  · rename_i b bs
    have hb := scanSign_length bs
    have hs := spanDigits_length (scanSign bs).2
    split at h
    · simp only at h
      split at h
      · simp at h
      · rename_i heq
        simp only [Option.some.injEq, Prod.mk.injEq] at h
        rw [heq] at hs
        simp only [List.length_cons]
        simp only [h.2] at hs
        omega
    · simp_all

theorem scan?_length {negative : Bool} {bs rest : List UInt8} {n : Numeral} (h : scan? negative bs = some (n, rest)) :
    rest.length < bs.length := by
  simp only [scan?, Option.bind_eq_bind, Option.bind_eq_some_iff, Option.pure_def, Option.some.injEq,
    Prod.mk.injEq, Prod.exists] at h
  obtain ⟨_, b₁, h₁, _, b₂, h₂, _, b₃, h₃, _, rfl⟩ := h
  have := scanWhole?_length h₁
  have := scanFraction?_length h₂
  have := scanExponent?_length h₃
  omega

/-! ### Meaning -/

def wordLimit : Nat := Nat.pow 2 64

def absorb (n : Nat) : Digits → Nat × Digits
  | [] => (n, [])
  | d :: ds => if 10 * n + d.val < wordLimit then absorb (10 * n + d.val) ds else (n, d :: ds)

/-- The significand and power of ten that approximate a numeral. Digits that do not fit the
significand only count as powers of ten before the point, and not at all behind it. -/
def approximation (n : Numeral) : Nat × Int :=
  let (significand, dropped) := absorb 0 n.whole
  let (significand, ignored) := absorb significand n.fraction
  let shift : Int := dropped.length - (n.fraction.length - ignored.length : Nat)
  let exponent : Int := match n.exponent with
    | none => 0
    | some (negative, ds) => if negative then -(Decimal.value ds : Int) else Decimal.value ds
  (significand, shift + exponent)

def topPower : Nat := 308

def powerOfTen (n : Nat) : Float := Float.ofScientific 1 false n

def divide (x : Float) (power : Nat) : Float :=
  if power ≤ topPower then x / powerOfTen power
  else if x == 0 then x
  else divide (x / powerOfTen topPower) (power - topPower)
termination_by power
decreasing_by simp only [topPower] at *; omega

def scale? (significand : Nat) (exponent : Int) : Option Float :=
  let x := significand.toUInt64.toFloat
  if exponent < 0 then some (divide x exponent.natAbs)
  else if exponent.natAbs ≤ topPower then
    let y := x * powerOfTen exponent.natAbs
    if y.isInf then none else some y
  else if significand = 0 then some x
  else none

def real? (n : Numeral) : Option Number :=
  let (significand, exponent) := n.approximation
  (scale? significand exponent).map fun x => .real (if n.negative then -x else x)

/-- The value of a numeral; there is none beyond the range of doubles. Minus zero and integers that
do not fit 64 bits are reals. -/
def number? (n : Numeral) : Option Number :=
  let v := Decimal.value n.whole
  if n.fraction = [] ∧ n.exponent = none then
    if n.negative then
      if 0 < v ∧ v ≤ Nat.pow 2 63 then some (.negative (-(v : Int))) else n.real?
    else if v < wordLimit then some (.natural v) else n.real?
  else n.real?

end Numeral

end DecodeBench.Json
