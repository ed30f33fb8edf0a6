import DecodeBench.Proofs.Cache.Packed

/-! What the tokens of a sequence see, in terms of the positions at which the sequence has cells. -/

namespace DecodeBench.Cache

def positionsOf (id : Nat) (entries : List Cell) : List Nat :=
  (entries.filter fun c => decide (id ∈ c.sequences)).map (·.position)

def Gapless (entries : List Cell) : Prop := ∀ id, ∃ n, positionsOf id entries = List.range n

@[simp] lemma positionsOf_nil (id : Nat) : positionsOf id [] = [] := rfl

lemma positionsOf_cons (id : Nat) (c : Cell) (entries : List Cell) : positionsOf id (c :: entries) =
    if id ∈ c.sequences then c.position :: positionsOf id entries else positionsOf id entries := by
  rw [positionsOf, List.filter_cons]
  simp only [decide_eq_true_eq]
  split <;> rfl

@[simp] lemma positionsOf_append (id : Nat) (entries new : List Cell) :
    positionsOf id (entries ++ new) = positionsOf id entries ++ positionsOf id new := by
  simp [positionsOf]

lemma mem_positionsOf {id : Nat} {entries : List Cell} {c : Cell} (hc : c ∈ entries) (hid : id ∈ c.sequences) :
    c.position ∈ positionsOf id entries :=
  List.mem_map_of_mem (List.mem_filter.2 ⟨hc, decide_eq_true hid⟩)

lemma range_of_append {xs ys : List Nat} {n : Nat} (h : xs ++ ys = List.range n) : xs = List.range xs.length := by
  have hle : xs.length ≤ n := by
    have hl := congrArg List.length h
    rw [List.length_append, List.length_range] at hl
    omega
  have ht := congrArg (List.take xs.length) h
  rwa [List.take_left, List.take_range, Nat.min_eq_left hle] at ht

lemma Gapless.of_append {entries new : List Cell} (h : Gapless (entries ++ new)) : Gapless entries := by
  intro id
  obtain ⟨n, hn⟩ := h id
  rw [positionsOf_append] at hn
  exact ⟨_, range_of_append hn⟩

lemma filter_le_range {p n : Nat} (h : p < n) : (List.range n).filter (fun k => decide (k ≤ p)) = List.range (p + 1) := by
  obtain ⟨m, rfl⟩ := Nat.exists_eq_add_of_lt h
  rw [show p + m + 1 = (p + 1) + m by omega, List.range_add, List.filter_append]
  have hhead : (List.range (p + 1)).filter (fun k => decide (k ≤ p)) = List.range (p + 1) := by
    refine List.filter_eq_self.2 fun k hk => ?_
    simpa [Nat.lt_succ_iff] using hk
  have htail : ((List.range m).map (p + 1 + ·)).filter (fun k => decide (k ≤ p)) = [] := by
    refine List.filter_eq_nil_iff.2 fun k hk => ?_
    obtain ⟨i, -, rfl⟩ := List.mem_map.1 hk
    simp
    omega
  rw [hhead, htail, List.append_nil]

lemma Gapless.upTo {entries : List Cell} (h : Gapless entries) {c : Cell} (hc : c ∈ entries) {id : Nat}
    (hid : id ∈ c.sequences) :
    (positionsOf id entries).filter (fun k => decide (k ≤ c.position)) = List.range (c.position + 1) := by
  obtain ⟨n, hn⟩ := h id
  have hlt := mem_positionsOf hc hid
  rw [hn, List.mem_range] at hlt
  rw [hn, filter_le_range hlt]

lemma map_filter_range {α : Type} (xs : List α) (keep : α → Bool) :
    ((List.range xs.length).filter fun i => (xs[i]?.map keep).getD false).map (xs[·]?) = (xs.filter keep).map some := by
  induction xs with
  | nil => rfl
  | cons x xs ih =>
    have hrest : ((List.map Nat.succ (List.range xs.length)).filter
        fun i => ((x :: xs)[i]?.map keep).getD false).map ((x :: xs)[·]?) = (xs.filter keep).map some := by
      rw [← ih, List.filter_map, List.map_map]
      rfl
    rw [List.length_cons, List.range_succ_eq_map, List.filter_cons, List.filter_cons]
    cases hx : keep x
    · simpa [hx] using hrest
    · simpa [hx] using hrest

namespace CellTable

def ShowsHistory (t : CellTable) (id position : Nat) : Prop :=
  (t.visibleCells (.ofList [id]) position).map (fun i => t.cells[i]?.map (·.position)) =
    (List.range (position + 1)).map some

lemma visibleCells_eq (t : CellTable) (sequences : SequenceSet) (position : Nat) :
    (t.visibleCells sequences position).map (fun i => t.cells[i]?) =
      (t.cells.toList.filter (·.visibleTo sequences position)).map some := by
  rw [← map_filter_range, Array.length_toList]
  simp only [Array.getElem?_toList]
  rfl

lemma visibleTo_singleton {id : Nat} (hid : id < maxSequences) (c : Cell) (position : Nat) :
    c.visibleTo (.ofList [id]) position = (decide (c.position ≤ position) && decide (id ∈ c.sequences)) := by
  have hmem : ∀ x, x ∈ SequenceSet.ofList [id] ↔ x = id := by
    intro x
    rw [SequenceSet.mem_ofList (by simpa using hid), List.mem_singleton]
  have hinter : c.sequences.intersects (.ofList [id]) = decide (id ∈ c.sequences) := by
    rw [Bool.eq_iff_iff, SequenceSet.intersects_iff, decide_eq_true_iff]
    simp [hmem]
  rw [Cell.visibleTo, hinter, Bool.and_comm]

variable {t : CellTable} {entries : List Cell}

lemma Packed.positions_visible (h : t.Packed entries) {id : Nat} (hid : id < maxSequences) (position : Nat) :
    (t.visibleCells (.ofList [id]) position).map (fun i => t.cells[i]?.map (·.position)) =
      ((positionsOf id entries).filter fun k => decide (k ≤ position)).map some := by
  have hblank : (List.replicate (t.size - entries.length) Cell.empty).filter
      (·.visibleTo (.ofList [id]) position) = [] := by
    refine List.filter_eq_nil_iff.2 fun c hc => ?_
    rw [List.eq_of_mem_replicate hc, visibleTo_singleton hid]
    simp [Cell.empty]
  have hcells := congrArg (List.map (Option.map (·.position))) (t.visibleCells_eq (.ofList [id]) position)
  rw [h.cells, List.filter_append, hblank, List.append_nil, List.map_map, List.map_map] at hcells
  refine hcells.trans ?_
  rw [positionsOf, List.filter_map, List.map_map, List.filter_filter]
  congr 1
  exact List.filter_congr fun c _ => visibleTo_singleton hid c position

lemma Packed.showsHistory (h : t.Packed entries) (hg : Gapless entries) {c : Cell} (hc : c ∈ entries) {id : Nat}
    (hid : id ∈ c.sequences) : t.ShowsHistory id c.position := by
  rw [ShowsHistory, h.positions_visible (SequenceSet.mem_iff.1 hid).1, hg.upTo hc hid]

end CellTable

end DecodeBench.Cache
