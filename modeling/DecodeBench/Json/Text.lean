import DecodeBench.Json.Token

/-! The text of a JSON string, from what stands between its quotes. -/

namespace DecodeBench.Json

def encodeChar (n : Nat) : List UInt8 := utf8 (String.singleton (Char.ofNat n))

def isLeading (unit : Nat) : Bool := decide (0xd800 ≤ unit) && decide (unit < 0xdc00)

def isTrailing (unit : Nat) : Bool := decide (0xdc00 ≤ unit) && decide (unit < 0xe000)

def pairedChar (leading trailing : Nat) : Nat := 0x10000 + (leading - 0xd800) * 0x400 + (trailing - 0xdc00)

def unescape? : List UInt8 → Option (List UInt8)
  | [] => some []
  | 0x5c :: 0x75 :: a :: b :: c :: d :: bs => do
    let unit ← hexUnit? a b c d
    if isTrailing unit then none
    else if isLeading unit then
      match bs with
      | 0x5c :: 0x75 :: a :: b :: c :: d :: bs => do
        let next ← hexUnit? a b c d
        if isTrailing next then return encodeChar (pairedChar unit next) ++ (← unescape? bs) else none
      | _ => none
    else return encodeChar unit ++ (← unescape? bs)
  | 0x5c :: b :: bs => do return (← simpleEscape? b) :: (← unescape? bs)
  | b :: bs => do return b :: (← unescape? bs)

def text? (body : List UInt8) : Option String := do String.fromUTF8? ⟨(← unescape? body).toArray⟩

end DecodeBench.Json
