import DecodeBench.Decimal.Shortest
import DecodeBench.Json.Numeral

/-! The numeral that JSON output uses for a double: the shortest that reads back as it. -/

namespace DecodeBench.Json

/-- Numbers are written positionally if the power of ten of their first digit is in this range,
and otherwise with an exponent. -/
structure FloatLayout where
  lowest : Int
  highest : Int

def floatLayout : FloatLayout := ⟨-5, 15⟩

def FloatLayout.numeral (l : FloatLayout) (negative : Bool) (ds : Decimal.Digits) (power : Int) : Numeral :=
  if l.lowest ≤ power ∧ power ≤ l.highest then
    if power < 0 then { negative, whole := Decimal.zeros 1, fraction := Decimal.zeros (power.natAbs - 1) ++ ds }
    else
      let places := power.toNat + 1
      let fraction := ds.drop places
      { negative
        whole := ds.take places ++ Decimal.zeros (places - ds.length)
        fraction := if fraction.isEmpty then Decimal.zeros 1 else fraction }
  else {
    negative
    whole := ds.take 1
    fraction := ds.drop 1
    exponent := some (decide (power < 0), Decimal.digits power.natAbs) }

def Numeral.ofFloat? (x : Float) : Option Numeral :=
  match Decimal.Binary64.ofFloat x with
  | .finite negative 0 _ => some (floatLayout.numeral negative (Decimal.zeros 1) 0)
  | .finite negative m e =>
    let d := Decimal.Shortest.ofParts m e
    let ds := Decimal.digits d.count
    some (floatLayout.numeral negative ds (d.power + (ds.length - 1 : Nat)))
  | _ => none

def Numeral.text (n : Numeral) : String := String.ofList (n.bytes.map fun b => Char.ofNat b.toNat)

end DecodeBench.Json
