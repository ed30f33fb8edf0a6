import DecodeBench.Proofs.Cache.Packed
import DecodeBench.Proofs.Lists
import Mathlib.Data.List.TakeWhile

/-! The books of a cell table. The number of occupied cells and the head of the search are kept beside
the cells, and are right as long as only occupied cells are given back. -/

namespace DecodeBench.Cache

namespace Cell

def isOccupied (c : Cell) : Bool := !c.isEmpty

lemma isOccupied_shared (source target : Nat) (span : Span) (c : Cell) :
    (c.shared source target span).isOccupied = c.isOccupied := by
  rw [isOccupied, isOccupied]
  cases hc : c.isEmpty with
  | false => rw [shared_occupied hc]
  | true =>
    have hnone : ¬ source ∈ c.sequences := SequenceSet.isEmpty_iff.1 hc source
    rw [shared, if_neg fun h => hnone h.1, hc]

end Cell

namespace CellTable

/-! ### Cells written over -/

section Overwritten

variable {cells : Array Cell} {start : Nat} {new : List Cell}

lemma split_toList (cells : Array Cell) (start count : Nat) : cells.toList =
    cells.toList.take start ++ (cells.toList.drop start).take count ++ cells.toList.drop (start + count) := by
  rw [List.append_assoc, ← List.drop_drop, List.take_append_drop, List.take_append_drop]

lemma overwritten_eq_append (h : start + new.length ≤ cells.size) : (overwritten cells start new).toList =
    cells.toList.take start ++ new ++ cells.toList.drop (start + new.length) := by
  have hsize : cells.toList.length = cells.size := Array.length_toList
  have hstart : (cells.toList.take start).length = start := by
    rw [List.length_take]
    omega
  have hold : ((cells.toList.drop start).take new.length).length = new.length := by
    rw [List.length_take, List.length_drop]
    omega
  have hcells := toList_overwritten (split_toList cells start new.length) hold
  rwa [hstart] at hcells

lemma countP_overwritten (h : start + new.length ≤ cells.size) (p : Cell → Bool) :
    (overwritten cells start new).toList.countP p + ((cells.toList.drop start).take new.length).countP p =
      cells.toList.countP p + new.countP p := by
  have hcount := congrArg (List.countP p) (split_toList cells start new.length)
  rw [List.countP_append, List.countP_append] at hcount
  rw [overwritten_eq_append h, List.countP_append, List.countP_append, hcount]
  omega

end Overwritten

variable {t : CellTable}

lemma free_iff_of_mem_range {c : Cell} {start count : Nat} (hc : c ∈ (t.cells.toList.drop start).take count) :
    ∃ i, start ≤ i ∧ i < start + count ∧ (t.Free i ↔ c.isEmpty = true) := by
  obtain ⟨k, hk⟩ := List.mem_iff_getElem?.1 hc
  have hlt : k < count := by
    by_contra hge
    rw [List.getElem?_take_eq_none (Nat.le_of_not_lt hge)] at hk
    cases hk
  rw [List.getElem?_take_of_lt hlt, List.getElem?_drop, Array.getElem?_toList] at hk
  refine ⟨start + k, by omega, by omega, ?_⟩
  rw [Free, hk]
  rfl

lemma FreeRun.countP_eq_zero {start count : Nat} (h : t.FreeRun count start) :
    ((t.cells.toList.drop start).take count).countP Cell.isOccupied = 0 := by
  rw [List.countP_eq_zero]
  intro c hc
  obtain ⟨i, hs, hi, hfree⟩ := free_iff_of_mem_range hc
  simp [Cell.isOccupied, hfree.1 (h.free hs hi)]

lemma countP_of_occupied {start count : Nat} (hfits : start + count ≤ t.size)
    (h : ∀ i, start ≤ i → i < start + count → ¬ t.Free i) :
    ((t.cells.toList.drop start).take count).countP Cell.isOccupied = count := by
  have hsize : t.cells.toList.length = t.size := Array.length_toList
  have hall : ∀ c ∈ (t.cells.toList.drop start).take count, c.isOccupied = true := by
    intro c hc
    obtain ⟨i, hs, hi, hfree⟩ := free_iff_of_mem_range hc
    simpa [Cell.isOccupied] using mt hfree.2 (h i hs hi)
  rw [List.countP_eq_length.2 hall, List.length_take, List.length_drop]
  omega

/-! ### The end of the occupied cells -/

section Extent

lemma toList_extent (t : CellTable) : ∃ kept gone, t.cells.toList = kept ++ gone ∧ t.extent = kept.length ∧
    (∀ c ∈ gone, c.isEmpty = true) ∧ ∀ h : kept ≠ [], (kept.getLast h).isEmpty = false := by
  let cs := t.cells.toList.reverse
  have hsplit : t.cells.toList = (cs.dropWhile Cell.isEmpty).reverse ++ (cs.takeWhile Cell.isEmpty).reverse := by
    rw [← List.reverse_append, List.takeWhile_append_dropWhile, List.reverse_reverse]
  refine ⟨_, _, hsplit, ?_, fun c hc => List.mem_takeWhile_imp (List.mem_reverse.1 hc), fun h => ?_⟩
  · have hlength := congrArg List.length hsplit
    rw [List.length_append, List.length_reverse, List.length_reverse, Array.length_toList] at hlength
    have hextent : t.extent = t.cells.size - (cs.takeWhile Cell.isEmpty).length := rfl
    rw [List.length_reverse]
    omega
  · rw [List.getLast_reverse]
    exact List.head_dropWhile_not _ _

lemma free_of_extent_le {i : Nat} (h : t.extent ≤ i) : t.Free i := by
  obtain ⟨kept, gone, hsplit, hextent, hgone, -⟩ := toList_extent t
  rw [Free, ← Array.getElem?_toList, hsplit, List.getElem?_append_right (hextent ▸ h)]
  cases hc : gone[i - kept.length]? with
  | none => rfl
  | some c => exact hgone c (List.mem_of_getElem? hc)

lemma not_free_extent (h : 0 < t.extent) : ¬ t.Free (t.extent - 1) := by
  obtain ⟨kept, gone, hsplit, hextent, -, hkept⟩ := toList_extent t
  rw [hextent] at h
  have hlast := hkept (List.length_pos_iff.1 h)
  rw [List.getLast_eq_getElem] at hlast
  rw [Free, ← Array.getElem?_toList, hsplit, hextent, List.getElem?_append_left (by omega),
    List.getElem?_eq_getElem (by omega), Option.map_some, hlast]
  exact Bool.false_ne_true

lemma countP_le_extent (t : CellTable) : t.cells.toList.countP Cell.isOccupied ≤ t.extent := by
  obtain ⟨kept, gone, hsplit, hextent, hgone, -⟩ := toList_extent t
  have hnone : gone.countP Cell.isOccupied = 0 := by
    rw [List.countP_eq_zero]
    intro c hc
    simp [Cell.isOccupied, hgone c hc]
  rw [hsplit, List.countP_append, hnone, hextent]
  exact List.countP_le_length

end Extent

end CellTable

/-! ### Moves -/

inductive Move where
  | push (positions : List Nat) (sequences : List SequenceSet)
  | release (start count : Nat)
  | share (source target : Nat) (span : Span)
  | clear

namespace Move

def perform? (t : CellTable) : Move → Option CellTable
  | .push positions sequences =>
    match t.find? positions.length with
    | none => none
    | some (none, t) => some t
    | some (some start, t) => t.occupy? start positions sequences
  | .release start count => t.release? start count
  | .share source target span => some (t.share source target span)
  | .clear => some t.clear

def Disciplined (t : CellTable) : Move → Prop
  | .push positions sequences => positions.length = sequences.length ∧ ∀ s ∈ sequences, s.isEmpty = false
  | .release start count => start + count ≤ t.size ∧ ∀ i, start ≤ i → i < start + count → ¬ t.Free i
  | .share _ _ _ => True
  | .clear => True

def entries (positions : List Nat) (sequences : List SequenceSet) : List Cell :=
  (positions.zip sequences).map fun (position, s) => ⟨position, s⟩

def Effect (t t' : CellTable) : Move → Prop
  | .push positions sequences =>
    (∀ i, ¬ t.Free i → t'.cells[i]? = t.cells[i]?) ∧
      (((positions = [] ∨ ∀ r, ¬ t.FreeRun positions.length r) ∧ t'.cells = t.cells) ∨
        ∃ start, t.FreeRun positions.length start ∧ ∀ i, t'.cells[i]? =
          if start ≤ i ∧ i < start + positions.length then (entries positions sequences)[i - start]? else t.cells[i]?)
  | .release start count => t'.used + count = t.used ∧ ∀ i, t'.cells[i]? =
      if start ≤ i ∧ i < start + count then some .empty else t.cells[i]?
  | .share source target span => t'.cells = t.cells.map (Cell.shared source target span)
  | .clear => t' = .empty t.size

end Move

namespace CellTable

inductive Kept (size : Nat) : CellTable → Prop
  | fresh : Kept size (.empty size)
  | move {t t' : CellTable} {m : Move} (h : Kept size t) (disciplined : m.Disciplined t)
      (moved : m.perform? t = some t') : Kept size t'

structure Accounted (t : CellTable) : Prop where
  used_eq : t.used = t.cells.toList.countP Cell.isOccupied
  head_le : t.head ≤ t.size

namespace Accounted

variable {t : CellTable}

lemma empty (size : Nat) : (CellTable.empty size).Accounted := by
  refine ⟨?_, Nat.zero_le _⟩
  rw [CellTable.empty, Array.toList_replicate, List.countP_replicate]
  rfl

lemma used_le_extent (h : t.Accounted) : t.used ≤ t.extent := by
  rw [h.used_eq]
  exact t.countP_le_extent

lemma used_le_size (h : t.Accounted) : t.used ≤ t.size :=
  Nat.le_trans h.used_le_extent (Nat.sub_le _ _)

lemma with_head (h : t.Accounted) {head : Nat} (hh : head ≤ t.size) : ({ t with head } : CellTable).Accounted :=
  ⟨h.used_eq, hh⟩

lemma occupy (h : t.Accounted) {start : Nat} {positions : List Nat} {sequences : List SequenceSet}
    (hrun : t.FreeRun positions.length start) (hd : (Move.push positions sequences).Disciplined t) :
    ∃ t', t.occupy? start positions sequences = some t' ∧ t'.size = t.size ∧ t'.Accounted ∧ ∀ i, t'.cells[i]? =
      if start ≤ i ∧ i < start + positions.length then (Move.entries positions sequences)[i - start]?
      else t.cells[i]? := by
  obtain ⟨hlengths, hsome⟩ := hd
  have hlength : (Move.entries positions sequences).length = positions.length := by
    rw [Move.entries, List.length_map, List.length_zip, ← hlengths, Nat.min_self]
  have hfits : start + (Move.entries positions sequences).length ≤ t.cells.size := by
    rw [hlength]
    exact hrun.1
  have hnew : (Move.entries positions sequences).countP Cell.isOccupied = positions.length := by
    rw [← hlength, List.countP_eq_length]
    intro c hc
    obtain ⟨⟨position, s⟩, hmem, rfl⟩ := List.mem_map.1 hc
    have hs := hsome s (List.of_mem_zip hmem).2
    simp [Cell.isOccupied, Cell.isEmpty, hs]
  -- What is written over was free, and all that is written is occupied.
  have hcount := countP_overwritten hfits Cell.isOccupied
  rw [hlength, hrun.countP_eq_zero, hnew, ← h.used_eq] at hcount
  have hhead : t.counts (start + positions.length) = true := decide_eq_true (Nat.le_trans hrun.1 (Nat.le_max_left ..))
  have hused : t.counts (t.used + positions.length) = true := by
    have hall := List.countP_le_length (p := Cell.isOccupied)
      (l := (overwritten t.cells start (Move.entries positions sequences)).toList)
    rw [Array.length_toList, size_overwritten] at hall
    have hsize : t.cells.size = t.size := rfl
    exact decide_eq_true (Nat.le_trans (by omega) (Nat.le_max_left ..))
  refine ⟨_, if_pos ⟨.inr hfits, hhead, hused⟩, size_overwritten, ⟨hcount.symm, ?_⟩, fun i => ?_⟩
  · rw [size, size_overwritten]
    exact hrun.1
  · rw [← hlength]
    exact getElem?_overwritten hfits i

lemma release (h : t.Accounted) {start count : Nat} (hd : (Move.release start count).Disciplined t) :
    ∃ t', t.release? start count = some t' ∧ t'.size = t.size ∧ t'.Accounted ∧
      (Move.release start count).Effect t t' := by
  obtain ⟨hfits, hoccupied⟩ := hd
  have hlength : (List.replicate count Cell.empty).length = count := List.length_replicate
  have hfits' : start + (List.replicate count Cell.empty).length ≤ t.cells.size := by
    rw [hlength]
    exact hfits
  have hnew : (List.replicate count Cell.empty).countP Cell.isOccupied = 0 := by
    rw [List.countP_replicate]
    rfl
  have hcount := countP_overwritten hfits' Cell.isOccupied
  rw [hlength, countP_of_occupied hfits hoccupied, hnew, ← h.used_eq, Nat.add_zero] at hcount
  have hused : count ≤ t.used := hcount ▸ Nat.le_add_left _ _
  refine ⟨_, if_pos ⟨hfits, hused⟩, size_overwritten, ⟨?_, ?_⟩, Nat.sub_add_cancel hused, fun i => ?_⟩
  · exact (Nat.eq_sub_of_add_eq hcount).symm
  · rw [size, size_overwritten]
    exact Nat.le_trans (Nat.le_add_right _ _) hfits
  · rw [getElem?_overwritten hfits', hlength]
    split_ifs with hin
    · rw [List.getElem?_replicate, if_pos (by omega)]
    · rfl

lemma share (h : t.Accounted) (source target : Nat) (span : Span) : (t.share source target span).Accounted := by
  refine ⟨?_, ?_⟩
  · rw [share_used, share_cells, Array.toList_map, List.countP_map, h.used_eq]
    exact congrArg (List.countP · _) (funext fun c => (Cell.isOccupied_shared source target span c).symm)
  · rw [share_head, share_size]
    exact h.head_le

lemma move (h : t.Accounted) {m : Move} (hd : m.Disciplined t) :
    ∃ t', m.perform? t = some t' ∧ t'.size = t.size ∧ t'.Accounted ∧ m.Effect t t' := by
  cases m with
  | push positions sequences =>
    obtain ⟨head, hh, ⟨hfind, hnone⟩ | ⟨start, hfind, -, hrun⟩⟩ := find?_cases h.head_le positions.length
    · rw [List.length_eq_zero_iff] at hnone
      refine ⟨{ t with head }, ?_, rfl, h.with_head hh, fun i _ => rfl, .inl ⟨hnone, rfl⟩⟩
      rw [Move.perform?, hfind]
    · obtain ⟨t', ht', hsize, haccounted, hcells⟩ := (h.with_head hh).occupy hrun hd
      refine ⟨t', ?_, hsize, haccounted, fun i hi => ?_, .inr ⟨start, hrun, hcells⟩⟩
      · rw [Move.perform?, hfind]
        exact ht'
      · rw [hcells, if_neg fun hin => hi (hrun.free hin.1 hin.2)]
  | release start count => exact h.release hd
  | share source target span => exact ⟨_, rfl, share_size .., h.share source target span, share_cells ..⟩
  | clear => exact ⟨_, rfl, Array.size_replicate, .empty t.size, rfl⟩

end Accounted

lemma Kept.accounted {size : Nat} {t : CellTable} (h : t.Kept size) : t.size = size ∧ t.Accounted := by
  induction h with
  | fresh => exact ⟨Array.size_replicate, .empty size⟩
  | move _ disciplined moved ih =>
    obtain ⟨hsize, haccounted⟩ := ih
    obtain ⟨t', ht', hsize', haccounted', -⟩ := haccounted.move disciplined
    cases moved.symm.trans ht'
    exact ⟨hsize'.trans hsize, haccounted'⟩

theorem books_are_kept {size : Nat} {t : CellTable} (h : t.Kept size) :
    t.size = size ∧ t.used = t.cells.toList.countP (fun c => !c.isEmpty) ∧ t.used ≤ t.size ∧
    (∃ free, t.free? = some free ∧ t.used + free = size) ∧
    t.head ≤ t.size ∧ t.used ≤ t.extent ∧ (∀ i, t.extent ≤ i → t.Free i) ∧ (0 < t.extent → ¬ t.Free (t.extent - 1)) ∧
    (∀ count, ∃ found head, t.find? count = some (found, { t with head })) ∧
    ∀ m : Move, m.Disciplined t → ∃ t', m.perform? t = some t' ∧ m.Effect t t' := by
  obtain ⟨hsize, haccounted⟩ := h.accounted
  have hused := haccounted.used_le_size
  refine ⟨hsize, haccounted.used_eq, hused, ⟨_, if_pos hused, hsize ▸ Nat.add_sub_cancel' hused⟩, haccounted.head_le,
    haccounted.used_le_extent, fun i => free_of_extent_le, not_free_extent, fun count => ?_, fun m hd => ?_⟩
  · obtain ⟨head, -, ⟨hfind, -⟩ | ⟨start, hfind, -⟩⟩ := find?_cases haccounted.head_le count
    · exact ⟨none, head, hfind⟩
    · exact ⟨some start, head, hfind⟩
  · obtain ⟨t', ht', -, -, heffect⟩ := haccounted.move hd
    exact ⟨t', ht', heffect⟩

theorem a_hole_is_not_counted : ∃ t : CellTable, t.Kept 3 ∧ t.Free 0 ∧ t.extent = 2 ∧
    t.used = t.cells.toList.countP (fun c => !c.isEmpty) ∧ ∃ free, t.free? = some free ∧ t.used + free = 3 := by
  let s : SequenceSet := .ofList [0]
  let full : CellTable := ⟨#[⟨0, s⟩, ⟨1, s⟩, .empty], 2, 2⟩
  let holed : CellTable := ⟨#[.empty, ⟨1, s⟩, .empty], 0, 1⟩
  have hpush : (Move.push [0, 1] [s, s]).perform? (.empty 3) = some full := by
    have hfind : (CellTable.empty 3).find? 2 = some (some 0, .empty 3) :=
      (Packed.empty 3).find?_of_fits (by decide) (by decide)
    rw [Move.perform?, List.length_cons, List.length_singleton, hfind]
    decide
  have hmasks : (Move.push [0, 1] [s, s]).Disciplined (.empty 3) := ⟨rfl, by decide⟩
  have hfull : full.Kept 3 := .move .fresh hmasks hpush
  have hrelease : (Move.release 0 1).Disciplined full := by
    refine ⟨by decide, fun i _ hi => ?_⟩
    obtain rfl : i = 0 := Nat.lt_one_iff.1 hi
    exact Bool.false_ne_true
  have hholed : holed.Kept 3 := .move hfull hrelease (by decide)
  obtain ⟨-, hused, -, hfree, -⟩ := books_are_kept hholed
  exact ⟨holed, hholed, rfl, by decide, hused, hfree⟩

end CellTable

end DecodeBench.Cache
