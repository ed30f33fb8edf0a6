/-! Sets of sequence ids below 64, held as one bit per id. -/

namespace DecodeBench

def maxSequences : Nat := 64

structure SequenceSet where
  bits : BitVec 64
  deriving DecidableEq

namespace SequenceSet

def empty : SequenceSet := ⟨0#64⟩

instance : Inhabited SequenceSet := ⟨empty⟩

def insert (s : SequenceSet) (id : Nat) : SequenceSet :=
  if id < maxSequences then ⟨s.bits ||| BitVec.twoPow 64 id⟩ else s

def ofList (ids : List Nat) : SequenceSet := ids.foldl insert empty

def contains (s : SequenceSet) (id : Nat) : Bool := decide (id < maxSequences) && s.bits.getLsbD id

instance : Membership Nat SequenceSet := ⟨fun s id => s.contains id = true⟩

instance (id : Nat) (s : SequenceSet) : Decidable (id ∈ s) := inferInstanceAs (Decidable (s.contains id = true))

def isEmpty (s : SequenceSet) : Bool := s.bits == 0#64

def intersects (s t : SequenceSet) : Bool := !(s.bits &&& t.bits == 0#64)

def toList (s : SequenceSet) : List Nat := (List.range maxSequences).filter s.contains

theorem mem_iff {s : SequenceSet} {id : Nat} : id ∈ s ↔ id < maxSequences ∧ s.bits.getLsbD id = true := by
  show s.contains id = true ↔ _
  rw [contains, Bool.and_eq_true, decide_eq_true_eq]

@[simp] theorem not_mem_empty (x : Nat) : ¬ x ∈ empty := by
  simp [mem_iff, empty]

theorem mem_insert {s : SequenceSet} {id x : Nat} (h : id < maxSequences) : x ∈ s.insert id ↔ x ∈ s ∨ x = id := by
  rw [mem_iff, mem_iff, insert, if_pos h, BitVec.getLsbD_or, BitVec.getLsbD_twoPow, Bool.or_eq_true, Bool.and_eq_true,
    decide_eq_true_eq, decide_eq_true_eq]
  constructor
  · rintro ⟨hx, hs | ⟨_, rfl⟩⟩
    · exact .inl ⟨hx, hs⟩
    · exact .inr rfl
  · rintro (⟨hx, hs⟩ | rfl)
    · exact ⟨hx, .inl hs⟩
    · exact ⟨h, .inr ⟨h, rfl⟩⟩

end SequenceSet

end DecodeBench
