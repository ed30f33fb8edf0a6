/-! Grid points and their admission under a budget of cache cells. -/

namespace DecodeBench

def unboundedNeed : Nat := Nat.pow 2 64 - 1

def saturatingAdd (a b : Nat) : Nat := min (a + b) unboundedNeed

def saturatingMul (a b : Nat) : Nat := min (a * b) unboundedNeed

structure GridPoint where
  promptLength : Nat
  genLength : Nat
  parallelism : Nat
  deriving DecidableEq, Repr, Inhabited

namespace GridPoint

def requiredSlots (p : GridPoint) (shared : Bool) : Nat :=
  if shared then saturatingAdd (saturatingMul p.parallelism p.genLength) p.promptLength
  else saturatingMul p.parallelism (saturatingAdd p.promptLength p.genLength)

def need (p : GridPoint) (shared : Bool) : Nat :=
  if shared then p.promptLength + p.parallelism * p.genLength else p.parallelism * (p.promptLength + p.genLength)

end GridPoint

inductive Admission where
  | admitted (slots : Nat)
  | rejected (slots : Nat)
  deriving DecidableEq, Repr

namespace Admission

def slots : Admission → Nat
  | .admitted n | .rejected n => n

def isAdmitted : Admission → Bool
  | .admitted _ => true
  | .rejected _ => false

end Admission

def GridPoint.admission (p : GridPoint) (shared : Bool) (budget : Nat) : Admission :=
  let slots := p.requiredSlots shared
  if slots ≤ budget ∧ slots ≠ unboundedNeed then .admitted slots else .rejected slots

end DecodeBench
