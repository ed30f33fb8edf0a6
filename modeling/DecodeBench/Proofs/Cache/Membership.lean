import DecodeBench.SequenceSet
import Mathlib.Tactic.Common

/-! Sequence sets are sets: what is in one built from a list is what the list holds. Nothing is asked of
the word that holds a set but bits that it has. -/

namespace DecodeBench.SequenceSet

lemma mem_foldl_insert {ids : List Nat} {s : SequenceSet} {x : Nat} (h : ∀ id ∈ ids, id < maxSequences) :
    x ∈ ids.foldl insert s ↔ x ∈ s ∨ x ∈ ids := by
  induction ids generalizing s with
  | nil => simp
  | cons id ids ih =>
    obtain ⟨hid, hids⟩ := List.forall_mem_cons.1 h
    rw [List.foldl_cons, ih hids, mem_insert hid, List.mem_cons, or_assoc]

lemma mem_ofList {ids : List Nat} {x : Nat} (h : ∀ id ∈ ids, id < maxSequences) : x ∈ ofList ids ↔ x ∈ ids := by
  simp [ofList, mem_foldl_insert h]

lemma ext {s t : SequenceSet} (h : ∀ id, id ∈ s ↔ id ∈ t) : s = t := by
  have hbits : s.bits = t.bits := by
    apply BitVec.eq_of_getLsbD_eq
    intro i hi
    have hi' := h i
    rw [mem_iff, mem_iff] at hi'
    simpa [maxSequences, hi, ← Bool.eq_iff_iff] using hi'
  cases s
  cases t
  exact congrArg _ hbits

lemma isEmpty_iff {s : SequenceSet} : s.isEmpty = true ↔ ∀ id, ¬ id ∈ s := by
  simp only [isEmpty, beq_iff_eq, mem_iff, maxSequences]
  constructor
  · intro h id
    simp [h]
  · intro h
    apply BitVec.eq_of_getLsbD_eq
    intro i hi
    simpa [hi] using h i

lemma isEmpty_eq_false {s : SequenceSet} {id : Nat} (h : id ∈ s) : s.isEmpty = false := by
  rw [← Bool.not_eq_true, isEmpty_iff]
  exact fun hn => hn id h

lemma insert_of_mem {s : SequenceSet} {id : Nat} (h : id ∈ s) : s.insert id = s := by
  obtain ⟨hid, hs⟩ := mem_iff.1 h
  rw [insert, if_pos hid]
  congr 1
  apply BitVec.eq_of_getLsbD_eq
  intro i hi
  simp only [BitVec.getLsbD_or, BitVec.getLsbD_twoPow]
  grind

lemma insert_of_ge {s : SequenceSet} {id : Nat} (h : id ≥ maxSequences) : s.insert id = s :=
  if_neg (by omega)

lemma mem_insert_of_mem {s : SequenceSet} {id x : Nat} (h : x ∈ s) : x ∈ s.insert id := by
  by_cases hid : id < maxSequences
  · exact (mem_insert hid).2 (.inl h)
  · rwa [insert_of_ge (by omega)]

@[simp] lemma isEmpty_empty : empty.isEmpty = true := rfl

lemma intersects_iff {s t : SequenceSet} : s.intersects t = true ↔ ∃ id, id ∈ s ∧ id ∈ t := by
  have hi : s.intersects t = !(⟨s.bits &&& t.bits⟩ : SequenceSet).isEmpty := rfl
  rw [hi, Bool.not_eq_true', ← Bool.not_eq_true, isEmpty_iff]
  simp [mem_iff]
  grind

/-! ### Bits of the word -/

def oneBit? (id : Nat) : Option (BitVec 64) := if id < 64 then some (1#64 <<< id) else none

def insertBit? (s : SequenceSet) (id : Nat) : Option SequenceSet := (oneBit? id).map fun bit => ⟨s.bits ||| bit⟩

def testBit? (s : SequenceSet) (id : Nat) : Option Bool :=
  if id < maxSequences then (oneBit? id).map fun bit => !(s.bits &&& bit == 0#64) else some false

lemma oneBit?_eq {id : Nat} (h : id < maxSequences) : oneBit? id = some (BitVec.twoPow 64 id) := by
  rw [oneBit?, BitVec.twoPow_eq]
  exact if_pos h

lemma insertBit?_eq (s : SequenceSet) {id : Nat} (h : id < maxSequences) : s.insertBit? id = some (s.insert id) := by
  rw [insertBit?, oneBit?_eq h, insert, if_pos h]
  rfl

lemma foldlM_insertBit? {ids : List Nat} (s : SequenceSet) (h : ∀ id ∈ ids, id < maxSequences) :
    ids.foldlM insertBit? s = some (ids.foldl insert s) := by
  induction ids generalizing s with
  | nil => rfl
  | cons id ids ih =>
    obtain ⟨hid, hids⟩ := List.forall_mem_cons.1 h
    rw [List.foldlM_cons, insertBit?_eq s hid]
    exact ih _ hids

lemma twoPow_ne_zero {id : Nat} (h : id < maxSequences) : BitVec.twoPow 64 id ≠ 0#64 := by
  intro hzero
  have hbit : (BitVec.twoPow 64 id).getLsbD id = (0#64).getLsbD id := by rw [hzero]
  rw [BitVec.getLsbD_twoPow, decide_eq_true rfl, Bool.and_true, BitVec.getLsbD_zero] at hbit
  exact of_decide_eq_false hbit h

lemma testBit?_eq (s : SequenceSet) (id : Nat) : s.testBit? id = some (s.contains id) := by
  rw [testBit?, contains]
  split
  case isFalse h => rw [decide_eq_false h, Bool.false_and]
  case isTrue h =>
    have hbit : (s.bits &&& BitVec.twoPow 64 id == 0#64) = !s.bits.getLsbD id := by
      rw [BitVec.and_twoPow]
      cases s.bits.getLsbD id with
      | false => rfl
      | true => exact beq_false_of_ne (twoPow_ne_zero h)
    rw [oneBit?_eq h, Option.map_some, hbit, Bool.not_not, decide_eq_true h, Bool.true_and]

/-! ### Sets of ids -/

def extended (ids more : List Nat) : SequenceSet := more.foldl insert (ofList ids)

lemma mem_extended {ids more : List Nat} (h : ∀ id ∈ ids ++ more, id < maxSequences) (x : Nat) :
    x ∈ extended ids more ↔ x ∈ ids ++ more := by
  rw [extended, ofList, ← List.foldl_append, ← ofList, mem_ofList h]

structure Holds (s : SequenceSet) (ids : List Nat) : Prop where
  contains_iff : ∀ id, s.contains id = true ↔ id ∈ ids
  contains_of_ge : ∀ id ≥ maxSequences, s.contains id = false
  isEmpty_iff : s.isEmpty = true ↔ ids = []

lemma holds_of_mem {s : SequenceSet} {ids : List Nat} (h : ∀ id, id ∈ s ↔ id ∈ ids) : s.Holds ids where
  contains_iff := h
  contains_of_ge id hid := by rw [contains, decide_eq_false (Nat.not_lt.2 hid), Bool.false_and]
  isEmpty_iff := by simp only [isEmpty_iff, h, List.eq_nil_iff_forall_not_mem]

theorem sets_hold_their_ids {ids more ids' more' : List Nat} (h : ∀ id ∈ ids ++ more, id < maxSequences)
    (h' : ∀ id ∈ ids' ++ more', id < maxSequences) :
    (extended ids more).Holds (ids ++ more) ∧
    ((extended ids more).intersects (extended ids' more') = true ↔ ∃ id, id ∈ ids ++ more ∧ id ∈ ids' ++ more') ∧
    (extended ids more = extended ids' more' ↔ ∀ id, id ∈ ids ++ more ↔ id ∈ ids' ++ more') ∧
    (ids ++ more).foldlM insertBit? empty = some (extended ids more) ∧
    ∀ id, (extended ids more).testBit? id = some ((extended ids more).contains id) := by
  have hmem := mem_extended h
  have hmem' := mem_extended h'
  refine ⟨holds_of_mem hmem, ?_, ⟨fun heq id => ?_, fun hids => ext fun id => ?_⟩, ?_, testBit?_eq _⟩
  · simp only [intersects_iff, hmem, hmem']
  · rw [← hmem, ← hmem', heq]
  · rw [hmem, hmem', hids]
  · rw [foldlM_insertBit? _ h, List.foldl_append]
    rfl

theorem lowest_and_highest_id_are_held :
    (extended [0, 3] [63]).Holds [0, 3, 63] ∧ extended [63, 0, 63] [3, 0] = extended [0, 3] [63] ∧
    (extended [0, 3] [63]).intersects (extended [] [63]) = true := by
  have hids : ∀ id ∈ [0, 3] ++ [63], id < maxSequences := by decide
  have hagain : ∀ id ∈ [63, 0, 63] ++ [3, 0], id < maxSequences := by decide
  have hlast : ∀ id ∈ [] ++ [63], id < maxSequences := by decide
  refine ⟨(sets_hold_their_ids hids hlast).1, (sets_hold_their_ids hagain hids).2.2.1.2 ?_,
    (sets_hold_their_ids hids hlast).2.1.2 ⟨63, by decide, by decide⟩⟩
  simp
  omega

end DecodeBench.SequenceSet
