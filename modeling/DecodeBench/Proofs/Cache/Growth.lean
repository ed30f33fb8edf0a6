import DecodeBench.Proofs.Cache.Visibility
import DecodeBench.Proofs.Lists

/-! Sequences that grow together, one token each at a time, and sequences that begin as copies of another. -/

namespace DecodeBench.Cache

def row (count position : Nat) : List Cell := (List.range count).map fun id => ⟨position, .ofList [id]⟩

def rows (count first length : Nat) : List Cell := (List.range' first length).flatMap (row count)

lemma rows_eq_map (count length : Nat) :
    rows count 0 length = (List.range (length * count)).map fun k => ⟨k / count, .ofList [k % count]⟩ := by
  rw [rows, ← List.range_eq_range']
  exact (map_range_mul (fun position id => (⟨position, .ofList [id]⟩ : Cell)) length count).symm

def Level (count length : Nat) (entries : List Cell) : Prop :=
  ∀ id, positionsOf id entries = if id < count then List.range length else []

lemma level_nil (count : Nat) : Level count 0 [] := by
  intro id
  simp

lemma positionsOf_row {count : Nat} (hc : count ≤ maxSequences) (id position : Nat) :
    positionsOf id (row count position) = if id < count then [position] else [] := by
  induction count with
  | zero => rfl
  | succ count ih =>
    have hsucc : row (count + 1) position = row count position ++ [⟨position, .ofList [count]⟩] := by
      rw [row, List.range_succ, List.map_append]
      rfl
    have hmem : id ∈ SequenceSet.ofList [count] ↔ id = count := by
      have hbound : ∀ x ∈ [count], x < maxSequences := fun x hx => List.mem_singleton.1 hx ▸ hc
      rw [SequenceSet.mem_ofList hbound, List.mem_singleton]
    have hlast : positionsOf id [⟨position, .ofList [count]⟩] = if id = count then [position] else [] := by
      rw [positionsOf_cons, positionsOf_nil]
      simp only [hmem]
    rw [hsucc, positionsOf_append, ih (by omega), hlast]
    split_ifs <;> first | rfl | omega

lemma positionsOf_rows {count : Nat} (hc : count ≤ maxSequences) (id first length : Nat) :
    positionsOf id (rows count first length) = if id < count then List.range' first length else [] := by
  induction length generalizing first with
  | zero => simp [rows]
  | succ length ih =>
    have hsucc : rows count first (length + 1) = row count first ++ rows count (first + 1) length := rfl
    rw [hsucc, positionsOf_append, positionsOf_row hc, ih]
    split_ifs <;> rfl

lemma level_rows {count : Nat} (hc : count ≤ maxSequences) (length : Nat) : Level count length (rows count 0 length) := by
  intro id
  rw [positionsOf_rows hc, List.range_eq_range']

variable {count length : Nat} {entries : List Cell}

lemma Level.gapless (h : Level count length entries) : Gapless entries := by
  intro id
  rw [h id]
  split
  · exact ⟨length, rfl⟩
  · exact ⟨0, rfl⟩

lemma Level.gapless_rows (h : Level count length entries) {count' : Nat} (hle : count' ≤ count)
    (hc : count' ≤ maxSequences) (more : Nat) : Gapless (entries ++ rows count' length more) := by
  intro id
  rw [positionsOf_append, h id, positionsOf_rows hc]
  by_cases hid : id < count'
  · refine ⟨length + more, ?_⟩
    rw [if_pos hid, if_pos (by omega), List.range_eq_range', List.range_eq_range']
    have hrange := List.range'_append_1 (s := 0) (m := length) (n := more)
    rwa [Nat.zero_add] at hrange
  · rw [if_neg hid, List.append_nil]
    rw [← h id]
    exact h.gapless id

lemma Level.share (h : Level count length entries) (hpos : 0 < count) (hc : count < maxSequences) :
    Level (count + 1) length (entries.map (Cell.shared 0 count ⟨0, length⟩)) := by
  have hposition : ∀ c ∈ entries, 0 ∈ c.sequences → c.position ∈ (⟨0, length⟩ : Span) := by
    intro c hcell hzero
    have hm := mem_positionsOf hcell hzero
    rw [h 0, if_pos hpos, List.mem_range] at hm
    exact ⟨Nat.zero_le _, hm⟩
  have hnone : ∀ c ∈ entries, ¬ count ∈ c.sequences := by
    intro c hcell hm
    have hp := mem_positionsOf hcell hm
    rw [h count, if_neg (Nat.lt_irrefl count)] at hp
    cases hp
  intro id
  have hmem : ∀ c ∈ entries, id ∈ (c.shared 0 count ⟨0, length⟩).sequences ↔
      (if id = count then 0 else id) ∈ c.sequences := by
    intro c hcell
    by_cases hzero : 0 ∈ c.sequences
    · rw [Cell.shared, if_pos ⟨hzero, hposition c hcell hzero⟩, SequenceSet.mem_insert hc]
      split_ifs with hid
      · simp [hid, hzero]
      · simp [hid]
    · rw [Cell.shared, if_neg fun hs => hzero hs.1]
      split_ifs with hid
      · subst hid
        simp [hzero, hnone c hcell]
      · rfl
  have hcopy : positionsOf id (entries.map (Cell.shared 0 count ⟨0, length⟩)) =
      positionsOf (if id = count then 0 else id) entries := by
    rw [positionsOf, List.filter_map, List.map_map, positionsOf]
    have hfilter : entries.filter ((fun c => decide (id ∈ c.sequences)) ∘ Cell.shared 0 count ⟨0, length⟩) =
        entries.filter fun c => decide ((if id = count then 0 else id) ∈ c.sequences) :=
      List.filter_congr fun c hcell => decide_eq_decide.2 (hmem c hcell)
    rw [hfilter]
    exact List.map_congr_left fun c _ => Cell.shared_position ..
  rw [hcopy, h]
  split_ifs <;> first | rfl | omega

end DecodeBench.Cache
