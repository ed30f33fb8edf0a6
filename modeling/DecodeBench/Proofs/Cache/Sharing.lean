import DecodeBench.Proofs.Cache.Accounting

/-! What is shared is membership: a cell gains the target if it has the source and its position is in
the span. No copy changes who has the source, so copies from one source do not see each other. -/

namespace DecodeBench.Cache

namespace Cell

variable {source target : Nat} {span : Span} {c : Cell}

lemma ext {d : Cell} (hposition : c.position = d.position) (hsequences : c.sequences = d.sequences) : c = d := by
  cases c
  cases d
  simp_all

lemma mem_shared {id : Nat} : id ∈ (c.shared source target span).sequences ↔
    id ∈ c.sequences ∨ id < maxSequences ∧ id = target ∧ source ∈ c.sequences ∧ c.position ∈ span := by
  by_cases hshared : source ∈ c.sequences ∧ c.position ∈ span
  · rw [shared, if_pos hshared]
    by_cases htarget : target < maxSequences
    · rw [SequenceSet.mem_insert htarget]
      refine or_congr_right ⟨?_, fun h => h.2.1⟩
      rintro rfl
      exact ⟨htarget, rfl, hshared⟩
    · rw [SequenceSet.insert_of_ge (Nat.le_of_not_lt htarget)]
      refine ⟨.inl, ?_⟩
      rintro (h | ⟨hid, rfl, -⟩)
      · exact h
      · exact absurd hid htarget
  · rw [shared, if_neg hshared]
    exact ⟨.inl, fun h => h.resolve_right fun h => hshared h.2.2⟩

lemma isEmpty_shared (source target : Nat) (span : Span) (c : Cell) :
    (c.shared source target span).isEmpty = c.isEmpty := by
  simpa [isOccupied] using isOccupied_shared source target span c

lemma visibleTo_shared {sequences : SequenceSet} {position : Nat} :
    (c.shared source target span).visibleTo sequences position = true ↔
      c.visibleTo sequences position = true ∨
        target ∈ sequences ∧ source ∈ c.sequences ∧ c.position ∈ span ∧ c.position ≤ position := by
  have hword : target ∈ sequences → target < maxSequences := fun h => (SequenceSet.mem_iff.1 h).1
  simp only [visibleTo, Bool.and_eq_true, SequenceSet.intersects_iff, decide_eq_true_eq, shared_position, mem_shared]
  constructor
  · rintro ⟨⟨id, hid | ⟨-, rfl, hsource, hspan⟩, hseq⟩, hposition⟩
    · exact .inl ⟨⟨id, hid, hseq⟩, hposition⟩
    · exact .inr ⟨hseq, hsource, hspan, hposition⟩
  · rintro (⟨⟨id, hid, hseq⟩, hposition⟩ | ⟨hseq, hsource, hspan, hposition⟩)
    · exact ⟨⟨id, .inl hid, hseq⟩, hposition⟩
    · exact ⟨⟨target, .inr ⟨hword hseq, rfl, hsource, hspan⟩, hseq⟩, hposition⟩

def sharedAll (c : Cell) (source : Nat) (copies : List (Nat × Span)) : Cell :=
  copies.foldl (fun c copy => c.shared source copy.1 copy.2) c

lemma sharedAll_position (c : Cell) (source : Nat) (copies : List (Nat × Span)) :
    (c.sharedAll source copies).position = c.position := by
  induction copies generalizing c with
  | nil => rfl
  | cons copy copies ih => exact (ih _).trans (shared_position ..)

lemma source_mem_shared : source ∈ (c.shared source target span).sequences ↔ source ∈ c.sequences := by
  rw [mem_shared]
  constructor
  · rintro (h | ⟨-, -, h, -⟩) <;> exact h
  · exact .inl

lemma mem_sharedAll {id : Nat} {copies : List (Nat × Span)} : id ∈ (c.sharedAll source copies).sequences ↔
    id ∈ c.sequences ∨
      id < maxSequences ∧ source ∈ c.sequences ∧ ∃ span, (id, span) ∈ copies ∧ c.position ∈ span := by
  induction copies generalizing c with
  | nil => simp [sharedAll]
  | cons copy copies ih =>
    have hcons : c.sharedAll source (copy :: copies) =
        (c.shared source copy.1 copy.2).sharedAll source copies := rfl
    have hhead : (∃ span, (id, span) ∈ copy :: copies ∧ c.position ∈ span) ↔
        id = copy.1 ∧ c.position ∈ copy.2 ∨ ∃ span, (id, span) ∈ copies ∧ c.position ∈ span := by
      simp only [List.mem_cons, Prod.ext_iff, or_and_right, exists_or]
      simp
    rw [hcons, ih, source_mem_shared, mem_shared, shared_position, hhead]
    grind

lemma sharedAll_congr {copies copies' : List (Nat × Span)} (h : ∀ copy, copy ∈ copies ↔ copy ∈ copies') (c : Cell) :
    c.sharedAll source copies = c.sharedAll source copies' := by
  have hsequences : (c.sharedAll source copies).sequences = (c.sharedAll source copies').sequences :=
    SequenceSet.ext fun id => by simp only [mem_sharedAll, h]
  exact ext ((c.sharedAll_position source copies).trans (c.sharedAll_position source copies').symm) hsequences

end Cell

namespace CellTable

def shareAll (t : CellTable) (source : Nat) (copies : List (Nat × Span)) : CellTable :=
  copies.foldl (fun t copy => t.share source copy.1 copy.2) t

variable {t : CellTable}

lemma share_eq (t : CellTable) (source target : Nat) (span : Span) :
    t.share source target span = { t with cells := t.cells.map (Cell.shared source target span) } := by
  rw [← share_cells]
  rw [share]
  split <;> rfl

lemma shareAll_eq (t : CellTable) (source : Nat) (copies : List (Nat × Span)) :
    t.shareAll source copies = { t with cells := t.cells.map fun c => c.sharedAll source copies } := by
  induction copies generalizing t with
  | nil => simp [shareAll, Cell.sharedAll]
  | cons copy copies ih =>
    have hcons : t.shareAll source (copy :: copies) = (t.share source copy.1 copy.2).shareAll source copies := rfl
    rw [hcons, ih, share_eq, Array.map_map]
    rfl

lemma extent_share (source target : Nat) (span : Span) : (t.share source target span).extent = t.extent := by
  have hempty : Cell.isEmpty ∘ Cell.shared source target span = Cell.isEmpty := funext (Cell.isEmpty_shared _ _ _)
  rw [extent, extent, share_size, share_cells, Array.toList_map, ← List.map_reverse, List.takeWhile_map, hempty,
    List.length_map]

lemma visible?_share {source target : Nat} {span : Span} {sequences : SequenceSet} {position i : Nat} :
    (t.share source target span).visible? i sequences position = some true ↔
      t.visible? i sequences position = some true ∨ target ∈ sequences ∧
        ∃ c : Cell, t.cells[i]? = some c ∧ source ∈ c.sequences ∧ c.position ∈ span ∧ c.position ≤ position := by
  rw [visible?, visible?, share_cells, Array.getElem?_map]
  cases t.cells[i]? with
  | none => simp
  | some c => simp [Cell.visibleTo_shared]

theorem sharing_is_membership (t : CellTable) (source target : Nat) (span : Span) :
    (∀ (i : Nat) (c : Cell), t.cells[i]? = some c → ∃ c' : Cell, (t.share source target span).cells[i]? = some c' ∧
      c'.position = c.position ∧ c'.isEmpty = c.isEmpty ∧ ∀ id < maxSequences, id ∈ c'.sequences ↔
        id ∈ c.sequences ∨ id = target ∧ source ∈ c.sequences ∧ span.first ≤ c.position ∧ c.position < span.stop) ∧
    (t.share source target span).size = t.size ∧ (t.share source target span).used = t.used ∧
    (t.share source target span).head = t.head ∧ (t.share source target span).extent = t.extent ∧
    (∀ sequences position i, (t.share source target span).visible? i sequences position = some true ↔
      t.visible? i sequences position = some true ∨ target ∈ sequences ∧
        ∃ c : Cell, t.cells[i]? = some c ∧ source ∈ c.sequences ∧ c.position ∈ span ∧ c.position ≤ position) ∧
    ∀ copies copies' : List (Nat × Span), (∀ copy, copy ∈ copies ↔ copy ∈ copies') →
      t.shareAll source copies = t.shareAll source copies' := by
  refine ⟨fun i c hc => ⟨c.shared source target span, ?_, Cell.shared_position .., Cell.isEmpty_shared .., ?_⟩,
    share_size .., share_used .., share_head .., extent_share .., fun _ _ _ => visible?_share, fun copies copies' h => ?_⟩
  · rw [share_cells, Array.getElem?_map, hc, Option.map_some]
  · intro id hid
    rw [Cell.mem_shared]
    exact or_congr_right (and_iff_right hid)
  · rw [shareAll_eq, shareAll_eq, funext (Cell.sharedAll_congr h)]

theorem copies_of_the_first_sequence_in_any_order :
    let first : SequenceSet := .ofList [0]
    let t : CellTable := ⟨#[⟨0, first⟩, ⟨1, first⟩, ⟨1, .ofList [1]⟩, .empty], 3, 3⟩
    (∃ c, (t.share 0 63 ⟨1, 5⟩).cells[1]? = some c ∧ 63 ∈ c.sequences ∧ ¬ 1 ∈ c.sequences) ∧
      t.shareAll 0 [(1, ⟨0, 2⟩), (63, ⟨1, 5⟩), (64, ⟨0, 9⟩), (0, ⟨0, 9⟩)] =
        t.shareAll 0 [(63, ⟨1, 5⟩), (0, ⟨0, 9⟩), (1, ⟨0, 2⟩), (63, ⟨1, 5⟩), (64, ⟨0, 9⟩)] := by
  intro first t
  obtain ⟨hcells, -, -, -, -, -, hlists⟩ := sharing_is_membership t 0 63 ⟨1, 5⟩
  refine ⟨?_, hlists _ _ fun copy => ?_⟩
  · obtain ⟨c, hc, -, -, hmem⟩ := hcells 1 ⟨1, first⟩ rfl
    refine ⟨c, hc, (hmem 63 (by decide)).2 (.inr (by decide)), fun hone => ?_⟩
    exact absurd ((hmem 1 (by decide)).1 hone) (by decide)
  · simp only [List.mem_cons]
    grind

end CellTable

end DecodeBench.Cache
