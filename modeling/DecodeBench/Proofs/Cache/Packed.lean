import DecodeBench.Proofs.Cache.Membership
import DecodeBench.Proofs.Cache.Search
import DecodeBench.Proofs.Lists

/-! A table is packed if its first cells are occupied and all others blank. Every operation keeps a
table packed as long as cells are only freed right after they were claimed: the search then comes
back with the first blank cell, wherever it starts. -/

namespace DecodeBench.Cache

namespace Cell

def shared (source target : Nat) (span : Span) (c : Cell) : Cell :=
  if source ∈ c.sequences ∧ c.position ∈ span then { c with sequences := c.sequences.insert target } else c

@[simp] lemma shared_position (source target : Nat) (span : Span) (c : Cell) :
    (c.shared source target span).position = c.position := by
  rw [shared]
  split <;> rfl

lemma mem_shared_of_mem {source target id : Nat} {span : Span} {c : Cell} (h : id ∈ c.sequences) :
    id ∈ (c.shared source target span).sequences := by
  rw [shared]
  split
  · exact SequenceSet.mem_insert_of_mem h
  · exact h

lemma shared_occupied {source target : Nat} {span : Span} {c : Cell} (h : c.isEmpty = false) :
    (c.shared source target span).isEmpty = false := by
  rw [isEmpty, ← Bool.not_eq_true, SequenceSet.isEmpty_iff, not_forall] at h
  obtain ⟨id, hid⟩ := h
  exact SequenceSet.isEmpty_eq_false (mem_shared_of_mem (not_not.1 hid))

lemma shared_empty (source target : Nat) (span : Span) : empty.shared source target span = empty := by
  simp [shared, empty]

end Cell

namespace CellTable

lemma share_cells (t : CellTable) (source target : Nat) (span : Span) :
    (t.share source target span).cells = t.cells.map (Cell.shared source target span) := by
  rw [share]
  split
  · rename_i hnone
    have hid : ∀ c : Cell, c.shared source target span = c := by
      intro c
      rw [Cell.shared]
      split
      · rename_i hm
        rcases hnone with rfl | hge
        · rw [SequenceSet.insert_of_mem hm.1]
        · rw [SequenceSet.insert_of_ge hge]
      · rfl
    simp [funext hid]
  · rfl

@[simp] lemma share_head (t : CellTable) (source target : Nat) (span : Span) :
    (t.share source target span).head = t.head := by
  rw [share]
  split <;> rfl

@[simp] lemma share_used (t : CellTable) (source target : Nat) (span : Span) :
    (t.share source target span).used = t.used := by
  rw [share]
  split <;> rfl

@[simp] lemma share_size (t : CellTable) (source target : Nat) (span : Span) :
    (t.share source target span).size = t.size := by
  simp [size, share_cells]

structure Packed (t : CellTable) (entries : List Cell) : Prop where
  cells : t.cells.toList = entries ++ List.replicate (t.size - entries.length) Cell.empty
  occupied : ∀ c ∈ entries, c.isEmpty = false
  used : t.used = entries.length
  head_le : t.head ≤ entries.length

namespace Packed

variable {t : CellTable} {entries : List Cell}

lemma empty (size : Nat) : (CellTable.empty size).Packed [] where
  cells := by simp [CellTable.empty, CellTable.size]
  occupied := by simp
  used := rfl
  head_le := Nat.le_refl 0

lemma length_le (h : t.Packed entries) : entries.length ≤ t.size := by
  have hl := congrArg List.length h.cells
  simp only [Array.length_toList, List.length_append, List.length_replicate] at hl
  rw [size]
  omega

lemma getElem?_cells (h : t.Packed entries) (i : Nat) :
    t.cells[i]? = if i < entries.length then entries[i]? else if i < t.size then some Cell.empty else none := by
  rw [← Array.getElem?_toList, h.cells, List.getElem?_append]
  split
  · rfl
  · rw [List.getElem?_replicate]
    split <;> split <;> first | rfl | omega

lemma free_iff (h : t.Packed entries) (i : Nat) : t.Free i ↔ entries.length ≤ i := by
  rw [Free, h.getElem?_cells]
  split
  · rename_i hi
    simp [h.occupied _ (List.getElem_mem hi), hi]
  · split <;> simp [Cell.isEmpty, Cell.empty] <;> omega

lemma cells_eq {t' : CellTable} (h : t.Packed entries) (h' : t'.Packed entries) (hs : t'.size = t.size) :
    t'.cells = t.cells := by
  apply Array.toList_inj.1
  rw [h.cells, h'.cells, hs]

lemma clear (t : CellTable) : t.clear.Packed [] := .empty t.size

lemma share (h : t.Packed entries) (source target : Nat) (span : Span) :
    (t.share source target span).Packed (entries.map (Cell.shared source target span)) where
  cells := by simp [share_cells, h.cells, Cell.shared_empty]
  occupied c hc := by
    obtain ⟨e, he, rfl⟩ := List.mem_map.1 hc
    exact Cell.shared_occupied (h.occupied e he)
  used := by simpa using h.used
  head_le := by simpa using h.head_le

lemma freeRun_iff (h : t.Packed entries) {count start : Nat} (hc : 0 < count) :
    t.FreeRun count start ↔ entries.length ≤ start ∧ start + count ≤ t.size := by
  constructor
  · intro hf
    exact ⟨(h.free_iff start).1 (hf.free (Nat.le_refl _) (by omega)), hf.1⟩
  · rintro ⟨hs, hn⟩
    exact ⟨hn, fun i hi _ => (h.free_iff i).2 (by omega)⟩

lemma find?_of_fits (h : t.Packed entries) {count : Nat} (hc : 0 < count) (hn : entries.length + count ≤ t.size) :
    t.find? count = some (some entries.length, { t with head := entries.length }) := by
  have hhead := h.head_le
  have hfirst : t.FreeRun count entries.length := (h.freeRun_iff hc).2 ⟨Nat.le_refl _, hn⟩
  obtain ⟨found, head, hfind, hfit⟩ := find?_nextFit hc (by omega) (show t.head ≤ t.size by omega)
  cases hfit with
  | ahead hs _ hmin =>
    have hge := ((h.freeRun_iff hc).1 hs).1
    have hle := Nat.le_of_not_lt fun hlt => hmin _ hhead hlt hfirst
    rw [hfind, Nat.le_antisymm hle hge]
  | behind _ _ hnone => exact absurd hfirst (hnone _ hhead)
  | nowhere hnone => exact absurd hfirst (hnone _)

lemma find?_of_full (h : t.Packed entries) {count : Nat} (hn : t.size < entries.length + count) :
    ∃ head, t.find? count = some (none, { t with head }) ∧ head ≤ entries.length := by
  by_cases hs : 0 < count ∧ count ≤ t.size
  · have hhead := h.head_le
    have hlen := h.length_le
    have hnone : ∀ r, ¬ t.FreeRun count r := fun r hr => by
      have := (h.freeRun_iff hs.1).1 hr
      omega
    obtain ⟨found, head, hfind, hfit⟩ := find?_nextFit hs.1 hs.2 (show t.head ≤ t.size by omega)
    cases hfit with
    | ahead hf => exact absurd hf (hnone _)
    | behind hf => exact absurd hf (hnone _)
    | nowhere _ hocc =>
      refine ⟨head, hfind, Nat.le_of_not_lt fun hlt => ?_⟩
      exact (hocc (by omega)).2 ((h.free_iff _).2 (by omega))
  · exact ⟨t.head, find?_of_senseless hs, h.head_le⟩

lemma with_head (h : t.Packed entries) {head : Nat} (hh : head ≤ entries.length) :
    ({ t with head } : CellTable).Packed entries :=
  ⟨h.cells, h.occupied, h.used, hh⟩

lemma of_toList {k : Nat} (hcells : t.cells.toList = entries ++ List.replicate k Cell.empty)
    (hocc : ∀ c ∈ entries, c.isEmpty = false) (hused : t.used = entries.length) (hhead : t.head ≤ entries.length) :
    t.Packed entries := by
  refine ⟨?_, hocc, hused, hhead⟩
  have hsize : t.size = entries.length + k := by
    rw [size, ← Array.length_toList, hcells, List.length_append, List.length_replicate]
  rw [hcells, hsize, Nat.add_sub_cancel_left]

lemma occupy (h : t.Packed entries) {new : List Cell} (hn : entries.length + new.length ≤ t.size)
    (hnew : ∀ c ∈ new, c.isEmpty = false) :
    ∃ t', t.occupy? entries.length (new.map (·.position)) (new.map (·.sequences)) = some t' ∧
      t'.size = t.size ∧ t'.Packed (entries ++ new) := by
  have hblank : t.cells.toList = entries ++ List.replicate new.length Cell.empty ++
      List.replicate (t.size - entries.length - new.length) Cell.empty := by
    rw [h.cells, List.append_assoc, List.replicate_append_replicate]
    congr 2
    omega
  have hcells := toList_overwritten hblank List.length_replicate
  have hcounts : t.counts (entries.length + new.length) = true :=
    decide_eq_true (Nat.le_trans hn (Nat.le_max_left ..))
  refine ⟨⟨overwritten t.cells entries.length new, entries.length + new.length, t.used + new.length⟩, ?_,
    size_overwritten, ?_⟩
  · simp [occupy?, List.zip_map', Function.comp_def, hn, h.used, hcounts]
  · refine .of_toList hcells ?_ (by simp [h.used]) (by simp)
    intro c hc
    rcases List.mem_append.1 hc with he | hc
    · exact h.occupied c he
    · exact hnew c hc

lemma release {new : List Cell} (h : t.Packed (entries ++ new)) :
    ∃ t', t.release? entries.length new.length = some t' ∧ t'.size = t.size ∧ t'.Packed entries := by
  have hlen := h.length_le
  have hused := h.used
  rw [List.length_append] at hlen hused
  have hcells := toList_overwritten h.cells (show new.length = (List.replicate new.length Cell.empty).length by simp)
  rw [List.append_assoc, List.replicate_append_replicate] at hcells
  refine ⟨⟨overwritten t.cells entries.length (List.replicate new.length .empty), entries.length, t.used - new.length⟩,
    if_pos ⟨hlen, by omega⟩, size_overwritten, ?_⟩
  refine .of_toList hcells (fun c hc => h.occupied c (List.mem_append_left _ hc)) ?_ (Nat.le_refl _)
  simp [h.used]

lemma extent_eq (h : t.Packed entries) : t.extent = entries.length := by
  have hlen := h.length_le
  have hblank : ∀ c ∈ List.replicate (t.size - entries.length) Cell.empty, c.isEmpty = true := by
    intro c hc
    rw [List.eq_of_mem_replicate hc]
    rfl
  have hocc : entries.reverse.takeWhile Cell.isEmpty = [] := by
    cases he : entries.reverse with
    | nil => rfl
    | cons c cs => exact List.takeWhile_cons_of_neg (by simp [h.occupied c (List.mem_reverse.1 (he ▸ List.mem_cons_self))])
  rw [extent, h.cells, List.reverse_append, List.reverse_replicate, List.takeWhile_append_of_pos hblank, hocc]
  simp
  omega

lemma maskRow_eq (h : t.Packed entries) (sequences : SequenceSet) (position : Nat) :
    t.maskRow t.extent sequences position = entries.map fun c => c.visibleTo sequences position := by
  apply List.ext_getElem
  · simp [maskRow, h.extent_eq]
  · intro i hi hi'
    have hlt : i < entries.length := by simpa using hi'
    simp [maskRow, visible?, h.getElem?_cells, hlt]

end Packed

end CellTable

end DecodeBench.Cache
