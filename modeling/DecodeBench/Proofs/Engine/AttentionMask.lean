import DecodeBench.Proofs.Engine.Ledger
import DecodeBench.Proofs.Engine.ReferencePass
import DecodeBench.Transformer.Processor

/-! What the tokens of a batch attend to. The forward pass looks at the cells up to the last occupied
one: no token sees a cell behind them, and each sees at least its own. -/

namespace DecodeBench

namespace Cache.CellTable

variable {t : CellTable} {sequences : SequenceSet} {position i : Nat}

lemma length_maskRow (t : CellTable) (extent : Nat) (sequences : SequenceSet) (position : Nat) :
    (t.maskRow extent sequences position).length = extent := by
  rw [maskRow, List.length_map, List.length_range]

lemma getElem?_maskRow :
    (t.maskRow t.extent sequences position)[i]? = some true ↔ t.visible? i sequences position = some true := by
  rw [maskRow, List.getElem?_map]
  constructor
  · intro h
    obtain ⟨k, hk, hseen⟩ := Option.map_eq_some_iff.1 h
    obtain ⟨hi, rfl⟩ := List.getElem?_eq_some_iff.1 hk
    rw [List.getElem_range] at hseen
    exact getD_eq_true.1 hseen
  · intro h
    rw [List.getElem?_range (lt_extent_of_visible h), Option.map_some, h]
    rfl

end Cache.CellTable

namespace Transformer.State

open Cache Model

structure Attends (s : State) (w : Work) : Prop where
  claimed_le : w.start + w.requests.length ≤ w.extent
  extent_le : w.extent ≤ s.limits.cells
  write : ∀ rows, s.rows.Alike rows → ∀ layer < s.weights.layers.length, ∀ keys values : List Vec,
    keys.length = w.requests.length → values.length = w.requests.length → (∀ r ∈ keys, r.size = rows.width) →
    (∀ r ∈ values, r.size = rows.width) → ∃ rows', rows.write? layer w.start keys values = some (.ok (), rows')
  read : ∀ rows, s.rows.Alike rows → ∀ layer < s.weights.layers.length, ∃ kept, rows.read layer w.extent = .ok kept
  rows : w.mask.length = w.requests.length
  own : ∀ (i : Nat) row, w.mask[i]? = some row → row[w.start + i]? = some true
  sees : ∀ (i : Nat) row r, w.mask[i]? = some row → w.requests[i]? = some r → row.length = w.extent ∧
    ∀ k : Nat, row[k]? = some true ↔ ∃ c : Cell, s.table.cells[k]? = some c ∧ c.isEmpty = false ∧
      (∃ id ∈ r.sequences, id ∈ c.sequences) ∧ c.position ≤ r.position
  visible_lt : ∀ r ∈ w.requests, ∀ i, s.table.visible? i (.ofList r.sequences) r.position = some true → i < w.extent
  lossless : (∀ stage ∈ w.passStages s.dimensions.layers, s.device.completes s.rows.format w stage = true) →
    s.forward w = (some (s.reference w.requests w.start).1, (s.reference w.requests w.start).2)
  refused : ¬ (∀ stage ∈ w.passStages s.dimensions.layers, s.device.completes s.rows.format w stage = true) →
    (s.forward w).1 = none

section Attends

variable {s : State} {entries : List Cell} {rs : List Request}

lemma own_cell_visible (hpacked : s.table.Packed (entries ++ rs.map entry))
    (hids : ∀ r ∈ rs, r.sequences ≠ [] ∧ ∀ id ∈ r.sequences, id < maxSequences) {i : Nat} {r : Request}
    (hr : rs[i]? = some r) :
    s.table.visible? (entries.length + i) (.ofList r.sequences) r.position = some true := by
  obtain ⟨hne, hlt⟩ := hids r (List.mem_of_getElem? hr)
  obtain ⟨id, hid⟩ := List.exists_mem_of_ne_nil _ hne
  have hown : id ∈ SequenceSet.ofList r.sequences := (SequenceSet.mem_ofList hlt).2 hid
  rw [CellTable.visible?_eq_true]
  -- The cell belongs to the sequences of the request, of which there is one, and is at its position.
  refine ⟨entry r, ?_, SequenceSet.isEmpty_eq_false hown, ⟨id, hown, hown⟩, Nat.le_refl _⟩
  obtain ⟨hi, -⟩ := List.getElem?_eq_some_iff.1 hr
  rw [hpacked.getElem?_cells, if_pos (by simpa using hi), List.getElem?_append_right (by omega)]
  simp [hr]

lemma attends_of_packed (hshaped : s.Shaped) (hpacked : s.table.Packed (entries ++ rs.map entry))
    (hsize : s.table.size = s.limits.cells)
    (hids : ∀ r ∈ rs, r.sequences ≠ [] ∧ ∀ id ∈ r.sequences, id < maxSequences) :
    s.Attends (s.work rs entries.length) := by
  have hextent : s.table.extent = entries.length + rs.length := by
    rw [hpacked.extent_eq, List.length_append, List.length_map]
  have hle : s.table.extent ≤ s.rows.cells := hshaped.cells ▸ s.table.extent_le_size
  have hwithin : (s.work rs entries.length).Within s.rows :=
    ⟨hextent ▸ hle, hle, hshaped.word, List.length_map _⟩
  have hlayers : ∀ rows, s.rows.Alike rows → ∀ layer < s.weights.layers.length, layer < rows.layers.size :=
    fun rows halike layer hlayer => Nat.lt_of_lt_of_le hlayer (halike.layers ▸ hshaped.layers)
  have hrow : ∀ (i : Nat) row, (s.work rs entries.length).mask[i]? = some row → ∃ r, rs[i]? = some r ∧
      row = s.table.maskRow s.table.extent (.ofList r.sequences) r.position := by
    intro i row hi
    rw [work, attentionMask, List.getElem?_map] at hi
    obtain ⟨r, hr, rfl⟩ := Option.map_eq_some_iff.1 hi
    exact ⟨r, hr, rfl⟩
  have hpassed := forward_passed hshaped hwithin
  constructor
  case claimed_le => exact Nat.le_of_eq hextent.symm
  case extent_le => exact hsize ▸ s.table.extent_le_size
  case write =>
    intro rows halike layer hlayer keys values hkeys hvalues hkey hvalue
    have hroom : (s.work rs entries.length).start + keys.length ≤ rows.cells := by
      rw [halike.cells, hkeys]
      exact hwithin.claimed_le
    exact ⟨_, RowStore.write?_ok keys values (hlayers rows halike layer hlayer) hkey hvalue hroom
      (halike.cells ▸ hshaped.word) (hvalues.trans hkeys.symm)⟩
  case read =>
    intro rows halike layer hlayer
    exact rows.read_ok layer s.table.extent (hlayers rows halike layer hlayer) (halike.cells ▸ hle)
  case rows => exact List.length_map _
  case own =>
    intro i row hi
    obtain ⟨r, hr, rfl⟩ := hrow i row hi
    exact CellTable.getElem?_maskRow.2 (own_cell_visible hpacked hids hr)
  case sees =>
    intro i row r hi hr
    obtain ⟨r', hr', rfl⟩ := hrow i row hi
    cases hr.symm.trans hr'
    refine ⟨CellTable.length_maskRow .., fun k => ?_⟩
    rw [CellTable.getElem?_maskRow, CellTable.visible?_eq_true]
    simp only [SequenceSet.mem_ofList (hids r (List.mem_of_getElem? hr)).2]
  case visible_lt => exact fun r _ i => CellTable.lt_extent_of_visible
  case lossless => exact forward_eq_reference hshaped hwithin
  case refused =>
    intro hrefused
    exact Option.not_isSome_iff_eq_none.1 fun h => hrefused (hpassed.isSome_iff.1 h)

end Attends

theorem tokens_see_up_to_the_extent {d : Dimensions} {limits : Limits} {device : Device} {format : NumberFormat}
    {fresh : State} (hcreate : create d limits device format = .ok fresh) (history : List Call) {w : Window}
    (hvalid : (Engine.decode w (Engine.after fresh history)).1 ≠ -1)
    (hroom : (Engine.decode w (Engine.after fresh history)).1 ≠ 1) :
    ∃ start s, (Engine.after fresh history).counted.place w.toList = (.ok start, s) ∧
      Engine.decode w (Engine.after fresh history) = s.compute (s.work w.toList start) ∧
      s.limits = limits ∧ s.Attends (s.work w.toList start) := by
  have hs := (create_balanced hcreate).after history
  have hstatus : (Engine.decode w (Engine.after fresh history)).1 = _ := (hs.decode w.toList).1
  rw [hstatus, Ne, Ledger.status_eq_invalid, not_not] at hvalid
  rw [hstatus, Ne, Ledger.status_eq_full, not_and, Nat.not_lt] at hroom
  obtain ⟨claimed, hsize, hpacked, hplace⟩ := hs.counted.place_fits hvalid (hroom hvalid)
  have hplaced := hs.counted.with_table hpacked hsize
  refine ⟨_, _, hplace, ?_, hplaced.limits, ?_⟩
  · change (Engine.after fresh history).decodeRequests w.toList = _
    rw [decodeRequests, hplace]
  · refine attends_of_packed hplaced.shaped hpacked (hsize.trans (congrArg _ hplaced.limits.symm)) fun r hr => ?_
    obtain ⟨-, hne, hlt⟩ := hvalid.2.2 r hr
    exact ⟨hne, fun id hid => Nat.lt_of_lt_of_le (hlt id hid) hs.sequences_le⟩

theorem two_tokens_at_one_position_see_each_other :
    let one := (Window.empty 1).push ⟨0, 3, [0], true⟩
    let two := ((Window.empty 2).push ⟨1, 7, [1], false⟩).push ⟨2, 7, [1, 2], true⟩
    let history : List Call := [.decode one, .share 0 1 ⟨0, 9⟩]
    ∃ fresh, create .tiny { cells := 4, batch := 4 } processor .binary32 = .ok fresh ∧
      (Engine.decode two (Engine.after fresh history)).1 = 0 ∧
      ∃ s, (Engine.after fresh history).counted.place two.toList = (.ok 1, s) ∧ s.Attends (s.work two.toList 1) ∧
        (s.work two.toList 1).mask = [[true, true, true], [true, true, true]] ∧
        s.forward (s.work two.toList 1) = (some (s.reference two.toList 1).1, (s.reference two.toList 1).2) := by
  intro one two history
  have hcreate : create .tiny { cells := 4, batch := 4 } processor .binary32 = .ok _ := rfl
  have hs := (create_balanced hcreate).after history
  have hstatus := (hs.decode two.toList).1.trans (show _ = (0 : Int) by decide)
  obtain ⟨start, s, hplace, -, -, hattends⟩ := tokens_see_up_to_the_extent hcreate history (w := two)
    (fun h => absurd (hstatus.symm.trans h) (by decide)) (fun h => absurd (hstatus.symm.trans h) (by decide))
  obtain ⟨claimed, hsize, hpacked, hplaced⟩ := hs.counted.place_fits (show Terms.Valid _ two.toList by decide) (by decide)
  cases hplace.symm.trans hplaced
  have hbalanced := hs.counted.with_table hpacked hsize
  refine ⟨_, hcreate, hstatus, _, hplaced, hattends, ?_, hattends.lossless fun stage _ => ?_⟩
  · exact (congrArg Work.mask (Balanced.work_eq hpacked)).trans (by decide)
  · rw [hbalanced.device, hbalanced.format]
    cases stage <;> rfl

end Transformer.State

end DecodeBench
