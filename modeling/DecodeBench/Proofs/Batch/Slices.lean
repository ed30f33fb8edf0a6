import DecodeBench.Proofs.Batch.Filling
import DecodeBench.Proofs.Batch.Views

/-! Slices of a view are slices of its list of requests: in every column, one behind the other, and piece by piece. -/

namespace DecodeBench

def Span.Tile : (first last : Nat) → List Span → Prop
  | first, last, [] => first = last
  | first, last, s :: rest => s.first = first ∧ first ≤ s.stop ∧ Tile s.stop last rest

namespace Window

def cutColumn? {α : Type} (column : Array α) (start stop : Nat) : Option (Array α) :=
  if start ≤ stop ∧ stop ≤ column.size then some (column.extract start stop) else none

def cutColumns? (w : Window) (start stop : Nat) : Option Window := do
  let tokens ← cutColumn? w.tokens start stop
  let positions ← cutColumn? w.positions start stop
  let counts ← cutColumn? w.counts start stop
  let ids ← cutColumn? w.ids (start * w.stride) (stop * w.stride)
  let outputs ← cutColumn? w.outputs start stop
  return { stride := w.stride, tokens, positions, counts, ids, outputs }

structure Shows (w : Window) (rs : List Request) : Prop where
  toList_eq : w.toList = rs
  size_eq : w.size = rs.length
  tokens_eq : w.tokens.toList = rs.map Request.token
  positions_eq : w.positions.toList = rs.map Request.position
  outputs_eq : w.outputs.toList = rs.map Request.wantsLogits
  ids_le : ∀ i n, w.counts[i]? = some n → i * w.stride + n ≤ w.ids.size
  sequences_eq : ∀ i, w.sequences? i = rs[i]?.map Request.sequences
  request_eq : ∀ i, w.request? i = rs[i]?
  outputCount_eq : w.outputCount = rs.countP Request.wantsLogits

variable {w v : Window} {start stop : Nat}

lemma cutColumns?_eq_slice? (hw : w.WellFormed) (start stop : Nat) :
    w.cutColumns? start stop = w.slice? start stop := by
  have htokens : w.tokens.size = w.size := rfl
  by_cases hbounds : start ≤ stop ∧ stop ≤ w.size
  · have hids : start * w.stride ≤ stop * w.stride ∧ stop * w.stride ≤ w.size * w.stride :=
      ⟨Nat.mul_le_mul_right _ hbounds.1, Nat.mul_le_mul_right _ hbounds.2⟩
    simp [cutColumns?, cutColumn?, slice?, extract, htokens, hw.positions_size, hw.counts_size, hw.outputs_size,
      hw.ids_size, hbounds, hids]
  · simp [cutColumns?, cutColumn?, slice?, htokens, hbounds]

lemma slice?_eq_none : w.slice? start stop = none ↔ stop < start ∨ w.size < stop := by
  simp [slice?]
  omega

namespace WellFormed

lemma outputs_toList (hw : w.WellFormed) : w.outputs.toList = w.toList.map Request.wantsLogits :=
  List.ext_getElem? fun i => by simpa [hw.getElem?_toList] using (hw.columns i).2.2.2

lemma outputCount_eq (hw : w.WellFormed) : w.outputCount = w.toList.countP Request.wantsLogits := by
  rw [outputCount, ← Array.count_toList, hw.outputs_toList, List.count, List.countP_map]
  congr 1
  funext r
  simp

lemma shows (hw : w.WellFormed) : w.Shows w.toList where
  toList_eq := rfl
  size_eq := hw.length_toList.symm
  tokens_eq := List.ext_getElem? fun i => by simpa [hw.getElem?_toList] using (hw.columns i).1
  positions_eq := List.ext_getElem? fun i => by simpa [hw.getElem?_toList] using (hw.columns i).2.1
  outputs_eq := hw.outputs_toList
  ids_le _ _ := hw.ids_le
  sequences_eq i := by rw [hw.getElem?_toList]; exact (hw.columns i).2.2.1
  request_eq i := (hw.getElem?_toList i).symm
  outputCount_eq := hw.outputCount_eq

lemma shows_slice (hw : w.WellFormed) (hv : w.slice? start stop = some v) :
    v.Shows (w.toList.extract start stop) := by
  obtain ⟨hstart, hstop, rfl⟩ := slice?_eq_some hv
  simpa only [hw.toList_extract hstart hstop] using (hw.extract start hstop).shows

end WellFormed

lemma extract_extract {a b c d : Nat} (hd : d ≤ b - a) (hab : a ≤ b) :
    (w.extract a b).extract c d = w.extract (a + c) (a + d) := by
  have hinner : min (a + d) b = a + d := Nat.min_eq_left (by omega)
  have hids : min (a * w.stride + d * w.stride) (b * w.stride) = (a + d) * w.stride := by
    rw [← Nat.add_mul, Nat.min_eq_left (Nat.mul_le_mul_right _ (by omega))]
  simp [extract, hinner, hids, Nat.add_mul]

/-- The inner bounds are held against the outer slice, not against what lies behind it. -/
lemma slice?_bind_slice? (w : Window) (a b c d : Nat) : (w.slice? a b).bind (·.slice? c d) =
    if a ≤ b ∧ b ≤ w.size ∧ c ≤ d ∧ d ≤ b - a then w.slice? (a + c) (a + d) else none := by
  by_cases houter : a ≤ b ∧ b ≤ w.size
  · have hsize := w.size_extract a houter.2
    rw [show w.slice? a b = some (w.extract a b) from if_pos houter, Option.bind_some, slice?, hsize]
    by_cases hinner : c ≤ d ∧ d ≤ b - a
    · have hwhole : a + c ≤ a + d ∧ a + d ≤ w.size := by omega
      rw [if_pos hinner, if_pos ⟨houter.1, houter.2, hinner⟩, slice?, if_pos hwhole, extract_extract hinner.2 houter.1]
    · rw [if_neg hinner, if_neg fun h => hinner h.2.2]
  · rw [show w.slice? a b = none from if_neg houter, Option.bind_none, if_neg fun h => houter ⟨h.1, h.2.1⟩]

lemma slices_of_tile (hw : w.WellFormed) {first last : Nat} {spans : List Span} (h : Span.Tile first last spans)
    (hlast : last ≤ w.size) : first ≤ last ∧ ∃ vs, spans.mapM (fun s => w.slice? s.first s.stop) = some vs ∧
      (∀ v ∈ vs, v.WellFormed) ∧ vs.flatMap toList = w.toList.extract first last := by
  induction spans generalizing first with
  | nil =>
    obtain rfl : first = last := h
    exact ⟨Nat.le_refl _, [], rfl, by simp, by simp⟩
  | cons s rest ih =>
    obtain ⟨rfl, ordered, htile⟩ := h
    obtain ⟨hle, vs, hvs, hwf, hlist⟩ := ih htile
    have hstop : s.stop ≤ w.size := Nat.le_trans hle hlast
    have hhead : w.slice? s.first s.stop = some (w.extract s.first s.stop) := if_pos ⟨ordered, hstop⟩
    refine ⟨Nat.le_trans ordered hle, w.extract s.first s.stop :: vs, ?_, ?_, ?_⟩
    · rw [List.mapM_cons, hhead, hvs]
      rfl
    · exact List.forall_mem_cons.2 ⟨hw.extract _ hstop, hwf⟩
    · have hlength : last - s.first = (s.stop - s.first) + (last - s.stop) := by omega
      have hdrop : s.stop = s.first + (s.stop - s.first) := by omega
      rw [List.flatMap_cons, hlist, hw.toList_extract ordered hstop, List.extract_eq_take_drop, List.extract_eq_take_drop,
        List.extract_eq_take_drop, hlength, List.take_add, List.drop_drop, ← hdrop]

lemma sum_outputCount {vs : List Window} (h : ∀ v ∈ vs, v.WellFormed) :
    (vs.map outputCount).sum = (vs.flatMap toList).countP Request.wantsLogits := by
  rw [List.countP_flatMap]
  exact congrArg List.sum (List.map_congr_left fun v hv => (h v hv).outputCount_eq)

theorem slicing_is_list_slicing {w : Window} (hw : w.IsView) :
    (∀ start stop, (w.slice? start stop = none ↔ stop < start ∨ w.size < stop) ∧
      w.cutColumns? start stop = w.slice? start stop) ∧
    (∀ start stop v, w.slice? start stop = some v → v.Shows (w.toList.extract start stop)) ∧
    (∀ a b c d, (w.slice? a b).bind (·.slice? c d) =
      if a ≤ b ∧ b ≤ w.size ∧ c ≤ d ∧ d ≤ b - a then w.slice? (a + c) (a + d) else none) ∧
    ∀ spans, Span.Tile 0 w.size spans → ∃ vs, spans.mapM (fun s => w.slice? s.first s.stop) = some vs ∧
      vs.flatMap toList = w.toList ∧ (vs.map outputCount).sum = w.outputCount := by
  have hwf := hw.wellFormed
  refine ⟨fun start stop => ⟨slice?_eq_none, cutColumns?_eq_slice? hwf start stop⟩, fun _ _ _ => hwf.shows_slice,
    w.slice?_bind_slice?, fun spans htile => ?_⟩
  obtain ⟨-, vs, hvs, hparts, hlist⟩ := slices_of_tile hwf htile (Nat.le_refl _)
  have hall : vs.flatMap toList = w.toList := by
    rw [hlist, List.extract_eq_take_drop, List.drop_zero, Nat.sub_zero, ← hwf.length_toList, List.take_length]
  exact ⟨vs, hvs, hall, by rw [sum_outputCount hparts, hall, hwf.outputCount_eq]⟩

theorem a_slice_ends_where_it_was_cut :
    let requests : List Request := [⟨4, 0, [], false⟩, ⟨5, 1, [6], true⟩, ⟨6, 2, [7, 8], false⟩, ⟨7, 3, [9], true⟩,
      ⟨8, 4, [], true⟩]
    ∃ b v, Batch.ofList 5 2 requests = .ok b ∧ b.window.slice? 1 4 = some v ∧ v.Shows (requests.extract 1 4) ∧
      v.slice? 1 4 = none ∧ v.slice? 1 3 = b.window.slice? 2 4 ∧
      ∃ vs, [⟨0, 2⟩, ⟨2, 2⟩, ⟨2, 5⟩].mapM (fun s : Span => b.window.slice? s.first s.stop) = some vs ∧
        vs.flatMap toList = requests ∧ (vs.map outputCount).sum = 3 := by
  intro requests
  let b : Batch := ⟨5, .ofList 2 requests⟩
  let v : Window := b.window.extract 1 4
  have hb : Batch.ofList 5 2 requests = .ok b := rfl
  have hv : b.window.slice? 1 4 = some v := rfl
  have hrequests : b.window.toList = requests := by decide
  obtain ⟨-, hshows, hnested, htiles⟩ := slicing_is_list_slicing (.whole (Batch.reached_ofList hb))
  have hinside := hnested 1 4 1 3
  have hbeyond := hnested 1 4 1 4
  rw [hv, Option.bind_some] at hinside hbeyond
  have htile : Span.Tile 0 b.window.size [⟨0, 2⟩, ⟨2, 2⟩, ⟨2, 5⟩] :=
    ⟨rfl, by decide, rfl, by decide, rfl, by decide, rfl⟩
  obtain ⟨vs, hvs, hlist, hcount⟩ := htiles _ htile
  exact ⟨b, v, hb, hv, hrequests ▸ hshows 1 4 v hv, hbeyond, hinside, vs, hvs, hlist.trans hrequests, hcount⟩

end Window

end DecodeBench
