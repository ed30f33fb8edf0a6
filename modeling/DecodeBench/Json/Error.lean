import DecodeBench.Json.FloatNumeral
import DecodeBench.Json.Text
import DecodeBench.Text.Quoted

/-! Why a text is not the JSON of a value of a given form: it is malformed, or it is well-formed so
far and does not fit. Reading goes from left to right and the first problem is the one reported. -/

namespace DecodeBench.Json

inductive Found where
  | null
  | boolean (b : Bool)
  | integer (i : Int)
  | real (x : Float)
  | text (s : String)
  | sequence
  | map

namespace Found

def message : Found → String
  | null => "null"
  | boolean b => "boolean `" ++ (if b then "true" else "false") ++ "`"
  | integer i => s!"integer `{i}`"
  | real x => "floating point `" ++ ((Numeral.ofFloat? x).map Numeral.text).getD "null" ++ "`"
  | text s => "string " ++ Text.quoted s
  | sequence => "sequence"
  | map => "map"

end Found

inductive ReadError where
  | malformed
  | invalidType (found : Found) (expected : String)
  | invalidValue (found : Int) (expected : String)
  | invalidLength (length : Nat) (record : String) (fields : Nat)
  | duplicateField (name : String)
  | missingField (name : String)
  | unknownName (given : String) (names : List String)

def alternatives (names : List String) : String :=
  match names.map fun n => s!"`{n}`" with
  | [a] => a
  | [a, b] => s!"{a} or {b}"
  | all => "one of " ++ ", ".intercalate all

def ReadError.message? : ReadError → Option String
  | .malformed => none
  | .invalidType found expected => some ("invalid type: " ++ found.message ++ ", expected " ++ expected)
  | .invalidValue found expected =>
    some ("invalid value: " ++ (Found.integer found).message ++ ", expected " ++ expected)
  | .invalidLength length record fields =>
    some s!"invalid length {length}, expected struct {record} with {fields} elements"
  | .duplicateField name => some s!"duplicate field `{name}`"
  | .missingField name => some s!"missing field `{name}`"
  | .unknownName given names => some (s!"unknown variant `{given}`, expected " ++ alternatives names)

end DecodeBench.Json
