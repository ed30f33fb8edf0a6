/-! The controls of a terminal in a text: single characters that show nothing, and sequences that an
escape character starts. -/

namespace DecodeBench.Text

inductive ControlPhase where
  | text
  | escape
  | escapeTail
  | parameters
  | deviceStart
  | deviceParameters
  | deviceTail
  /-- A string that goes on up to the byte 9C, also if that is a part of a character. -/
  | string
  | command
  deriving DecidableEq, Repr

def ControlPhase.keepsBlanks : ControlPhase → Bool
  | .text | .escape | .escapeTail | .parameters => true
  | .deviceStart | .deviceParameters | .deviceTail | .string | .command => false

def blankControls : List Char := ['\t', '\n', '\x0c', '\r']

namespace ControlPhase

def shows (p : ControlPhase) (c : Char) : Bool :=
  if c.toNat < 32 then p.keepsBlanks && c ∈ blankControls else p = .text && c != '\x7f'

def next? (p : ControlPhase) (c : Char) : Option ControlPhase :=
  let among (first last : Char) := decide (first ≤ c ∧ c ≤ last)
  if c = '\x1b' then some .escape
  else if c = '\x18' ∨ c = '\x1a' then some .text
  else match p with
    | .text => if c.toNat < 128 then none else some .text
    | .escape =>
      if c = '[' then some .parameters
      else if c = ']' then some .command
      else if c = 'P' then some .deviceStart
      else if c ∈ ['X', '^', '_'] then some .string
      else if among ' ' '/' then some .escapeTail
      else if among '0' '~' then some .text
      else none
    | .escapeTail => if among '0' '~' then some .text else none
    | .parameters => if among '@' '~' then some .text else none
    | .deviceStart =>
      if among ' ' '/' then some .deviceTail
      else if among '0' '?' then some .deviceParameters
      else if among '@' '~' then some .string
      else none
    | .deviceParameters =>
      if among ' ' '/' then some .deviceTail else if among '<' '~' then some .string else none
    | .deviceTail => if among '0' '~' then some .string else none
    | .string => if 0x9c ∈ String.utf8EncodeChar c then some .text else none
    | .command => if c = '\x07' then some .text else none

end ControlPhase

/-- The characters that are shown. Behind one that is shown, all others are taken for text, until one
shows nothing; then the sequence goes on that a blank control may have interrupted. -/
def shownFrom (p : ControlPhase) (shown : Bool) : List Char → List Char
  | [] => []
  | c :: cs =>
    let here := if shown then .text else p
    let rest := shownFrom ((here.next? c).getD p) (here.shows c) cs
    if here.shows c then c :: rest else rest

def withoutControls (s : String) : String := String.ofList (shownFrom .text true s.toList)

end DecodeBench.Text
