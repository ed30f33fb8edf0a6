import DecodeBench.Text.Hidden

/-! Text in double quotes, as error messages show it: quotes and backslashes take a backslash, four
controls have a letter, and all else that does not show as itself is given by its code point. -/

namespace DecodeBench.Text

def shown (c : Char) : List Char :=
  if c = '"' ∨ c = '\\' then ['\\', c]
  else if c = '\n' then ['\\', 'n']
  else if c = '\r' then ['\\', 'r']
  else if c = '\t' then ['\\', 't']
  else if c.toNat = 0 then ['\\', '0']
  else if isHidden c then ['\\', 'u', '\x7b'] ++ Nat.toDigits 16 c.toNat ++ ['\x7d']
  else [c]

def quoted (s : String) : String := String.ofList (('"' :: s.toList.flatMap shown) ++ ['"'])

end DecodeBench.Text
