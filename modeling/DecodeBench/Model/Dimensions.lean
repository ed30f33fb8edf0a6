/-! The shape of a transformer: how large its tables are, and how its columns are divided among heads. -/

namespace DecodeBench.Model

structure Dimensions where
  vocabulary : Nat
  hidden : Nat
  layers : Nat
  heads : Nat
  deriving DecidableEq, Repr, Inhabited

inductive DimensionFault where
  | empty (d : Dimensions)
  | indivisible (hidden heads : Nat)
  deriving DecidableEq, Repr

namespace Dimensions

def tiny : Dimensions := ⟨256, 64, 2, 4⟩

def headSize (d : Dimensions) : Nat := d.hidden / d.heads

def fault? (d : Dimensions) : Option DimensionFault :=
  if d.vocabulary = 0 ∨ d.hidden = 0 ∨ d.layers = 0 then some (.empty d)
  else if d.heads = 0 ∨ d.hidden % d.heads ≠ 0 then some (.indivisible d.hidden d.heads)
  else none

theorem vocabulary_pos {d : Dimensions} (h : d.fault? = none) : 0 < d.vocabulary := by
  rw [fault?] at h
  split at h
  · cases h
  · omega

def validate (d : Dimensions) : Except DimensionFault Unit :=
  match d.fault? with
  | some fault => .error fault
  | none => .ok ()

def listing (d : Dimensions) : String :=
  "ModelDims \x7b " ++ s!"vocab_size: {d.vocabulary}, hidden_size: {d.hidden}, " ++
    s!"num_hidden_layers: {d.layers}, num_attention_heads: {d.heads}" ++ " \x7d"

end Dimensions

def DimensionFault.message : DimensionFault → String
  | .empty d => "model dimensions must be non-zero: " ++ d.listing
  | .indivisible hidden heads => s!"hidden size {hidden} is not divisible by {heads} attention heads"

end DecodeBench.Model
