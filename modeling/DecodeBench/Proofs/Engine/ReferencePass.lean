import DecodeBench.Proofs.Cache.Accounting
import DecodeBench.Proofs.Engine.ForwardPass

/-! A forward pass with no mask and no end of the cells: each token attends to the rows of all cells of
the table that it sees. An engine that looks at the cells up to the last occupied one computes the same. -/

namespace DecodeBench

namespace Cache.CellTable

variable {t : CellTable} {sequences : SequenceSet} {position i : Nat}

lemma extent_le_size (t : CellTable) : t.extent ≤ t.size := Nat.sub_le _ _

lemma visible?_eq_true : t.visible? i sequences position = some true ↔
    ∃ c, t.cells[i]? = some c ∧ c.isEmpty = false ∧ (∃ id, id ∈ sequences ∧ id ∈ c.sequences) ∧ c.position ≤ position := by
  simp only [visible?, Option.map_eq_some_iff, Cell.visibleTo, Bool.and_eq_true, decide_eq_true_eq,
    SequenceSet.intersects_iff]
  refine exists_congr fun c => and_congr_right fun _ => ⟨?_, ?_⟩
  · rintro ⟨⟨id, hc, hs⟩, hposition⟩
    exact ⟨SequenceSet.isEmpty_eq_false hc, ⟨id, hs, hc⟩, hposition⟩
  · rintro ⟨-, ⟨id, hs, hc⟩, hposition⟩
    exact ⟨⟨id, hc, hs⟩, hposition⟩

lemma lt_extent_of_visible (h : t.visible? i sequences position = some true) : i < t.extent := by
  obtain ⟨c, hc, hoccupied, -⟩ := visible?_eq_true.1 h
  by_contra hge
  have hfree := free_of_extent_le (Nat.le_of_not_lt hge)
  rw [Free, hc, Option.map_some, Option.getD_some, hoccupied] at hfree
  cases hfree

lemma getD_eq_true {seen : Option Bool} : seen.getD false = true ↔ seen = some true := by
  rcases seen with _ | _ | _ <;> simp

lemma visibleCells_eq_upTo_extent (t : CellTable) (sequences : SequenceSet) (position : Nat) :
    t.visibleCells sequences position =
      (List.range t.extent).filter fun i => (t.visible? i sequences position).getD false := by
  obtain ⟨behind, hsize⟩ := Nat.exists_eq_add_of_le t.extent_le_size
  have hnone : ((List.range behind).map (t.extent + ·)).filter
      (fun i => (t.visible? i sequences position).getD false) = [] := by
    refine List.filter_eq_nil_iff.2 fun i hi hseen => ?_
    obtain ⟨k, -, rfl⟩ := List.mem_map.1 hi
    exact Nat.not_lt.2 (Nat.le_add_right _ _) (lt_extent_of_visible (getD_eq_true.1 hseen))
  rw [visibleCells, hsize, List.range_add, List.filter_append, hnone, List.append_nil]

end Cache.CellTable

namespace Transformer

open Cache Model

lemma shown_map_range (sees : Nat → Bool) (count : Nat) (rows : List Vec) :
    shown ((List.range count).map sees) rows = ((List.range count).filter sees).filterMap (rows[·]?) := by
  induction rows generalizing sees count with
  | nil => simp [shown]
  | cons row rows ih =>
    cases count with
    | zero => rfl
    | succ count =>
      have hrest : shown ((List.range count).map (sees ∘ Nat.succ)) rows =
          (((List.range count).map Nat.succ).filter sees).filterMap ((row :: rows)[·]?) := by
        rw [ih, List.filter_map, List.filterMap_map]
        rfl
      rw [List.range_succ_eq_map, List.map_cons, List.map_map, List.filter_cons]
      cases hsees : sees 0
      · simpa [shown, hsees] using hrest
      · simpa [shown, hsees] using hrest

namespace State

def context (s : State) (rows : RowStore Float) (layer : Nat) (r : Request) : List Vec × List Vec :=
  let seen := s.table.visibleCells (.ofList r.sequences) r.position
  let stored := rows.layers.getD layer default
  (seen.filterMap (stored.keys[·]?), seen.filterMap (stored.values[·]?))

def continued (s : State) (l : LayerWeights) (layer : Nat) (rows : RowStore Float) (x : Vec) (r : Request) : Vec :=
  let (keys, values) := s.context rows layer r
  x.zipWith (· + ·) (l.output.apply (attend s.dimensions.headSize s.dimensions.heads (l.query.apply x) keys values))

def referenceLayer (s : State) (rs : List Request) (start : Nat) (l : LayerWeights) (layer : Nat) (hidden : List Vec)
    (rows : RowStore Float) : List Vec × RowStore Float :=
  let rows := (rows.setKeys layer start (hidden.map l.key.apply)).setValues layer start (hidden.map l.value.apply)
  ((hidden.zip rs).map fun (x, r) => s.continued l layer rows x r, rows)

def referenceLayers (s : State) (rs : List Request) (start : Nat) :
    List LayerWeights → (layer : Nat) → List Vec → RowStore Float → List Vec × RowStore Float
  | [], _, hidden, rows => (hidden, rows)
  | l :: ls, layer, hidden, rows =>
    let (hidden, rows) := s.referenceLayer rs start l layer hidden rows
    referenceLayers s rs start ls (layer + 1) hidden rows

def reference (s : State) (rs : List Request) (start : Nat) : List Vec × RowStore Float :=
  let (hidden, rows) := referenceLayers s rs start s.weights.layers 0 (s.embed rs) s.rows
  let wanted := (hidden.zip rs).filterMap fun (x, r) => if r.wantsLogits then some x else none
  (wanted.map s.weights.head.apply, rows)

variable {s : State} {rs : List Request} {start : Nat}

lemma shown_maskRow (s : State) (r : Request) (table : Array Vec) :
    shown (s.table.maskRow s.table.extent (.ofList r.sequences) r.position) (table.extract 0 s.table.extent).toList =
      (s.table.visibleCells (.ofList r.sequences) r.position).filterMap (table[·]?) := by
  rw [CellTable.maskRow, shown_map_range, CellTable.visibleCells_eq_upTo_extent]
  refine List.filterMap_congr fun i hi => ?_
  have hlt := List.mem_range.1 (List.mem_of_mem_filter hi)
  rw [Array.toList_extract, List.extract_eq_take_drop, List.drop_zero, List.getElem?_take_of_lt (by omega),
    Array.getElem?_toList]

lemma attendRows?_eq_continued (l : LayerWeights) {layer : Nat} (hidden : List Vec) {rows : RowStore Float}
    (hl : layer < rows.layers.size) (hextent : s.table.extent ≤ rows.cells) :
    attendRows? s.dimensions l layer (s.work rs start) hidden rows =
      some ((hidden.zip rs).map fun (x, r) => s.continued l layer rows x r) := by
  have hlayer : rows.layers[layer]? = some rows.layers[layer] := Array.getElem?_eq_getElem hl
  have hread : rows.read layer s.table.extent = .ok
      ((rows.layers[layer].keys.extract 0 s.table.extent).toList,
        (rows.layers[layer].values.extract 0 s.table.extent).toList) := by
    rw [RowStore.read, hlayer]
    exact if_pos hextent
  have hcontext : (s.work rs start).mask.map (fun row =>
      (shown row (rows.layers[layer].keys.extract 0 s.table.extent).toList,
        shown row (rows.layers[layer].values.extract 0 s.table.extent).toList)) = rs.map (s.context rows layer) := by
    rw [work, attentionMask, List.map_map]
    refine List.map_congr_left fun r _ => ?_
    rw [Function.comp_apply, shown_maskRow, shown_maskRow, context, Array.getD_eq_getD_getElem?, hlayer]
    rfl
  have hread' : rows.read layer (s.work rs start).extent = _ := hread
  simp only [attendRows?, hread', hcontext]
  rw [attendAll, List.zip_map_right, List.map_map]
  rfl

section Layers

variable {completes : Stage → Bool} {layer : Nat} {hidden : List Vec} {rows : RowStore Float}
  (hw : (s.work rs start).Within rows) (hh : hidden.length = rs.length)
include hw hh

lemma runLayer_eq_reference {l : LayerWeights} (hl : layer < rows.layers.size) (hfits : l.Fits rows.width)
    (hproject : completes (.project layer) = true) (hattend : completes (.attend layer) = true) :
    runLayer s.dimensions completes (s.work rs start) l layer hidden rows =
      (some (s.referenceLayer rs start l layer hidden rows).1, (s.referenceLayer rs start l layer hidden rows).2) := by
  have ha := rows.alike_stored layer start (hidden.map l.key.apply) (hidden.map l.value.apply)
  rw [runLayer, if_pos hproject, write?_projected hw hl hfits hh]
  simp only [if_pos hattend]
  exact Prod.ext (attendRows?_eq_continued l hidden (ha.layers ▸ hl) (ha.cells ▸ hw.extent_le)) rfl

lemma runLayers_eq_reference {ls : List LayerWeights} (hl : layer + ls.length ≤ rows.layers.size)
    (hfits : ∀ l ∈ ls, l.Fits rows.width) (hstages : ∀ stage ∈ layerStages layer ls.length, completes stage = true) :
    runLayers s.dimensions completes (s.work rs start) ls layer hidden rows =
      (some (s.referenceLayers rs start ls layer hidden rows).1, (s.referenceLayers rs start ls layer hidden rows).2) := by
  induction ls generalizing layer hidden rows with
  | nil => rfl
  | cons l ls ih =>
    rw [List.length_cons] at hl hstages
    obtain ⟨⟨hproject, hattend⟩, hrest⟩ := forall_layerStages.1 hstages
    have ha := rows.alike_stored layer start (hidden.map l.key.apply) (hidden.map l.value.apply)
    have hlength : (s.referenceLayer rs start l layer hidden rows).1.length = rs.length := by
      rw [referenceLayer, List.length_map, List.length_zip, hh, Nat.min_self]
    rw [runLayers, runLayer_eq_reference hw hh (by omega) (hfits l List.mem_cons_self) hproject hattend]
    exact ih (hw.congr ha) hlength (ha.layers ▸ by omega)
      (fun l' hl' => ha.width ▸ hfits l' (List.mem_cons_of_mem _ hl')) hrest

end Layers

lemma predict?_eq_some {w : Work} {hidden : List Vec} (h : (s.predict? w hidden).isSome = true) :
    s.predict? w hidden = some (((hidden.zip w.requests).filterMap fun (x, r) =>
      if r.wantsLogits then some x else none).map s.weights.head.apply) := by
  simp only [predict?] at h ⊢
  split_ifs at h ⊢
  · rfl
  · cases h

lemma forward_eq_reference (h : s.Shaped) (hw : (s.work rs start).Within s.rows)
    (hstages : ∀ stage ∈ (s.work rs start).passStages s.dimensions.layers,
      s.completes (s.work rs start) stage = true) :
    s.forward (s.work rs start) = (some (s.reference rs start).1, (s.reference rs start).2) := by
  obtain ⟨hembed, hlayers, hpredict⟩ := forall_passStages.1 hstages
  have hembedded : (s.embed rs).length = rs.length := by rw [embed, List.length_map]
  have hcount : 0 + s.weights.layers.length ≤ s.rows.layers.size := by simpa using h.layers
  have hrun := runLayers_eq_reference hw hembedded hcount h.fits (h.count ▸ hlayers)
  have hlength := (runLayers_passed s.dimensions (s.completes (s.work rs start)) hw hcount h.fits hembedded).length _
    (congrArg Prod.fst hrun)
  have hpredicted := predict?_eq_some ((predict?_isSome hlength).2 hpredict)
  have hlayered : runLayers s.dimensions (s.completes (s.work rs start)) (s.work rs start) s.weights.layers 0
      (s.embed (s.work rs start).requests) s.rows = _ := hrun
  rw [forward, if_pos hembed, hlayered]
  exact Prod.ext hpredicted rfl

end State

end Transformer

end DecodeBench
