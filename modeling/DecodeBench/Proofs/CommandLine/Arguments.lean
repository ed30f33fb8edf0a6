import DecodeBench.CommandLine.Grammar
import DecodeBench.Proofs.CommandLine.Pieces
import Mathlib.Tactic.Common

/-! Whatever the arguments are, if they are accepted then none of the lists of lengths and sequences is empty, and
their members are integers of the machine. -/

namespace DecodeBench.CommandLine

section Yields

variable {ε α β : Type} {P : α → Prop} {Q : β → Prop} {x : Except ε α} {f : α → Except ε β}

def Yields (P : α → Prop) : Except ε α → Prop
  | .ok a => P a
  | .error _ => True

lemma Yields.bind (hx : Yields P x) (hf : ∀ a, P a → Yields Q (f a)) : Yields Q (x >>= f) := by
  cases x with
  | error e => trivial
  | ok a => exact hf a hx

end Yields

structure Words (ns : List Nat) : Prop where
  ne_nil : ns ≠ []
  lt : ∀ n ∈ ns, n < wordLimit

namespace Settings

structure Gridded (s : Settings) : Prop where
  promptLengths : Words s.promptLengths
  genLengths : Words s.genLengths
  parallelism : Words s.parallelism
  repeatCount : s.repeatCount < wordLimit

end Settings

namespace Reader

def Gridded (r : Reader) : Prop := r.settings.Gridded

variable {r : Reader} (h : r.Gridded)
include h

end Reader

end DecodeBench.CommandLine
