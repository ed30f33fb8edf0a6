import DecodeBench.Decimal.Digits
import DecodeBench.Text.Blank
import DecodeBench.Text.Quoted

/-! Numbers on the command line, and lists of them. -/

namespace DecodeBench.CommandLine

inductive NumberFault where
  | empty
  | invalidDigit
  | tooLarge
  | tooSmall
  deriving DecidableEq, Repr

def NumberFault.message : NumberFault → String
  | .empty => "cannot parse integer from empty string"
  | .invalidDigit => "invalid digit found in string"
  | .tooLarge => "number too large to fit in target type"
  | .tooSmall => "number too small to fit in target type"

def digitValue? (c : Char) : Option Nat := if c.isDigit then some (c.toNat - 48) else none

def continueNumber (limit : Nat) (overflow : NumberFault) (n : Nat) : List Char → Except NumberFault Nat
  | [] => .ok n
  | c :: cs =>
    match digitValue? c with
    | none => .error .invalidDigit
    | some d => if 10 * n + d < limit then continueNumber limit overflow (10 * n + d) cs else .error overflow

def digitsOnly (limit : Nat) (overflow : NumberFault) (cs : List Char) : Except NumberFault Nat :=
  if cs.isEmpty then .error .invalidDigit else continueNumber limit overflow 0 cs

def parseNatural (limit : Nat) : List Char → Except NumberFault Nat
  | [] => .error .empty
  | '+' :: cs => digitsOnly limit .tooLarge cs
  | cs => digitsOnly limit .tooLarge cs

def parseInteger : List Char → Except NumberFault Int
  | [] => .error .empty
  | '+' :: cs => (digitsOnly (Nat.pow 2 63) .tooLarge cs).map Int.ofNat
  | '-' :: cs => (digitsOnly (Nat.pow 2 63 + 1) .tooSmall cs).map fun n => -(n : Int)
  | cs => (digitsOnly (Nat.pow 2 63) .tooLarge cs).map Int.ofNat

def wordLimit : Nat := Nat.pow 2 64

def pieces : List Char → List (List Char)
  | [] => [[]]
  | c :: cs =>
    if c = ',' then [] :: pieces cs
    else match pieces cs with
      | [] => [[c]]
      | p :: ps => (c :: p) :: ps

structure PieceFault where
  piece : String
  fault : NumberFault
  deriving DecidableEq, Repr

def PieceFault.message (f : PieceFault) : String := "invalid value " ++ Text.quoted f.piece ++ ": " ++ f.fault.message

def parsePiece (piece : List Char) : Except PieceFault Nat :=
  match parseNatural wordLimit (Text.trim piece) with
  | .ok n => .ok n
  | .error fault => .error ⟨String.ofList piece, fault⟩

def parseList (s : String) : Except PieceFault (List Nat) := (pieces s.toList).mapM parsePiece

end DecodeBench.CommandLine
