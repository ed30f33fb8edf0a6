import DecodeBench.Json.FloatNumeral
import DecodeBench.Json.Text

/-! JSON values and their compact text. Members of an object stand in a fixed order, and a key may occur again. -/

namespace DecodeBench.Json

inductive Value where
  | null
  | boolean (b : Bool)
  | numeral (n : Numeral)
  | string (body : List UInt8)
  | array (elements : List Value)
  | object (members : List (List UInt8 × Value))

namespace Value

def word (s : String) : Value := string (utf8 s)

def natural (n : Nat) : Value := numeral (.ofNat n)

def integer (i : Int) : Value := numeral (.ofInt i)

def float (x : Float) : Value :=
  match Numeral.ofFloat? x with
  | some n => numeral n
  | none => null

def record (members : List (String × Value)) : Value := object (members.map fun (key, v) => (utf8 key, v))

def separated : List (List Token) → List Token
  | [] => []
  | [ts] => ts
  | ts :: rest => ts ++ Token.comma :: separated rest

mutual

def tokens : Value → List Token
  | null => [.null]
  | boolean b => [.boolean b]
  | numeral n => [.numeral n]
  | string body => [.string body]
  | array elements => .openBracket :: separated (elementTokens elements) ++ [.closeBracket]
  | object members => .openBrace :: separated (memberTokens members) ++ [.closeBrace]

def elementTokens : List Value → List (List Token)
  | [] => []
  | v :: vs => v.tokens :: elementTokens vs

def memberTokens : List (List UInt8 × Value) → List (List Token)
  | [] => []
  | (key, v) :: ms => (.string key :: .colon :: v.tokens) :: memberTokens ms

end

def bytes (v : Value) : List UInt8 := v.tokens.flatMap Token.bytes

end Value

end DecodeBench.Json
