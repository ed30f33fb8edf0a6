import DecodeBench.Proofs.Lists
import DecodeBench.Window

/-! A window lays out a list of requests: pushes, slices and chunks of windows are those of lists. -/

namespace DecodeBench

namespace Window

lemma request?_eq_none {w : Window} {i : Nat} (hi : w.size ≤ i) : w.request? i = none := by
  have ht : w.tokens[i]? = none := Array.getElem?_eq_none hi
  simp [request?, ht]

@[simp] lemma size_push (w : Window) (r : Request) : (w.push r).size = w.size + 1 := by
  simp [push, size]

@[simp] lemma stride_push (w : Window) (r : Request) : (w.push r).stride = w.stride := rfl

@[simp] lemma size_extract (w : Window) (start : Nat) {stop : Nat} (hstop : stop ≤ w.size) :
    (w.extract start stop).size = stop - start := by
  simp [extract, size, Nat.min_eq_left (show stop ≤ w.tokens.size from hstop)]

@[simp] lemma toList_empty (stride : Nat) : (empty stride).toList = [] := rfl

namespace WellFormed

variable {w : Window}

lemma request?_eq_some (hw : w.WellFormed) {i : Nat} (hi : i < w.size) : ∃ r, w.request? i = some r := by
  have ht : i < w.tokens.size := hi
  have hp : i < w.positions.size := hw.positions_size ▸ hi
  have hc : i < w.counts.size := hw.counts_size ▸ hi
  have ho : i < w.outputs.size := hw.outputs_size ▸ hi
  exact ⟨_, by simp [request?, sequences?, ht, hp, hc, ho]; rfl⟩

lemma toList_eq_map (hw : w.WellFormed) : w.toList = (List.range w.size).map fun i => (w.request? i).getD default := by
  refine List.filterMap_eq_map_iff_forall_eq_some.2 fun i hi => ?_
  obtain ⟨r, hr⟩ := hw.request?_eq_some (List.mem_range.1 hi)
  rw [hr, Option.getD_some]

lemma length_toList (hw : w.WellFormed) : w.toList.length = w.size := by
  simp [hw.toList_eq_map]

lemma getElem?_toList (hw : w.WellFormed) (i : Nat) : w.toList[i]? = w.request? i := by
  rw [hw.toList_eq_map, List.getElem?_map]
  by_cases hi : i < w.size
  · obtain ⟨r, hr⟩ := hw.request?_eq_some hi
    rw [List.getElem?_range hi, Option.map_some, hr, Option.getD_some]
  · rw [List.getElem?_eq_none (by simpa using hi), request?_eq_none (Nat.le_of_not_lt hi), Option.map_none]

lemma columns (hw : w.WellFormed) (i : Nat) :
    w.tokens[i]? = (w.request? i).map Request.token ∧ w.positions[i]? = (w.request? i).map Request.position ∧
      w.sequences? i = (w.request? i).map Request.sequences ∧
      w.outputs[i]? = (w.request? i).map Request.wantsLogits := by
  rcases Nat.lt_or_ge i w.size with hi | hi
  · obtain ⟨r, hr⟩ := hw.request?_eq_some hi
    have hparts := hr
    simp only [request?, Option.bind_eq_bind, Option.bind_eq_some_iff, Option.pure_def, Option.some.injEq] at hparts
    obtain ⟨token, htoken, position, hposition, sequences, hsequences, wants, hwants, rfl⟩ := hparts
    simp [hr, htoken, hposition, hsequences, hwants]
  · have hcount : w.counts.size ≤ i := hw.counts_size ▸ hi
    have htoken : w.tokens.size ≤ i := hi
    simp [request?_eq_none hi, sequences?, hcount, hw.positions_size, hw.outputs_size, htoken, hi]

lemma ids_le (hw : w.WellFormed) {i n : Nat} (hi : w.counts[i]? = some n) : i * w.stride + n ≤ w.ids.size := by
  obtain ⟨hlt, rfl⟩ := Array.getElem?_eq_some_iff.1 hi
  have hn := hw.counts_le _ (Array.getElem_mem hlt)
  rw [hw.counts_size] at hlt
  rw [hw.ids_size]
  calc i * w.stride + w.counts[i] ≤ i * w.stride + w.stride := Nat.add_le_add_left hn _
    _ = (i + 1) * w.stride := (Nat.succ_mul i w.stride).symm
    _ ≤ w.size * w.stride := Nat.mul_le_mul_right _ hlt

lemma sequences?_push (hw : w.WellFormed) (r : Request) (i : Nat) :
    (w.push r).sequences? i = if i = w.size then some r.sequences else w.sequences? i := by
  rw [sequences?, Window.push, Array.getElem?_push, hw.counts_size]
  split
  · rename_i hi
    rw [hi, ← hw.ids_size]
    simp [List.rightpad]
  · cases hc : w.counts[i]? with
    | none => simp [sequences?, hc]
    | some n =>
      have hn := hw.ids_le hc
      have hnone : i * w.stride + n - w.ids.size = 0 := by omega
      simp [sequences?, hc, hnone]

lemma request?_push (hw : w.WellFormed) (r : Request) (i : Nat) :
    (w.push r).request? i = if i = w.size then some r else w.request? i := by
  have ht : (w.push r).tokens[i]? = if i = w.size then some r.token else w.tokens[i]? := Array.getElem?_push
  have hp : (w.push r).positions[i]? = if i = w.size then some r.position else w.positions[i]? := by
    rw [Window.push, Array.getElem?_push, hw.positions_size]
  have ho : (w.push r).outputs[i]? = if i = w.size then some r.wantsLogits else w.outputs[i]? := by
    rw [Window.push, Array.getElem?_push, hw.outputs_size]
  rw [request?, ht, hp, ho, hw.sequences?_push]
  split <;> rfl

lemma toList_push (hw : w.WellFormed) {r : Request} (hr : r.sequences.length ≤ w.stride) :
    (w.push r).toList = w.toList ++ [r] := by
  apply List.ext_getElem?
  intro i
  rw [(hw.push hr).getElem?_toList, hw.request?_push, List.getElem?_append, hw.length_toList, hw.getElem?_toList]
  rcases Nat.lt_trichotomy i w.size with hlt | rfl | hgt
  · rw [if_neg (by omega), if_pos hlt]
  · simp
  · rw [if_neg (by omega), if_neg (by omega), request?_eq_none (by omega), List.getElem?_eq_none (by simp; omega)]

lemma extract (hw : w.WellFormed) (start : Nat) {stop : Nat} (he : stop ≤ w.size) :
    (w.extract start stop).WellFormed where
  positions_size := by simp [Window.extract, size, hw.positions_size]
  counts_size := by simp [Window.extract, size, hw.counts_size]
  outputs_size := by simp [Window.extract, size, hw.outputs_size]
  ids_size := by
    have htokens : stop ≤ w.tokens.size := he
    simp [Window.extract, size, hw.ids_size, Nat.min_eq_left htokens, Nat.sub_mul]
  counts_le n hn := by
    obtain ⟨i, hi, rfl⟩ := Array.mem_extract_iff_getElem.1 hn
    exact hw.counts_le _ (Array.getElem_mem _)

lemma sequences?_extract (hw : w.WellFormed) {start stop : Nat} (he : stop ≤ w.size) {i : Nat}
    (hi : i < stop - start) : (w.extract start stop).sequences? i = w.sequences? (start + i) := by
  have hlt : start + i < w.counts.size := by rw [hw.counts_size]; omega
  have hn := hw.counts_le _ (Array.getElem_mem hlt)
  have hlast : (start + i) * w.stride + w.counts[start + i] ≤ stop * w.stride := by
    calc (start + i) * w.stride + w.counts[start + i] ≤ (start + i) * w.stride + w.stride := Nat.add_le_add_left hn _
      _ = (start + i + 1) * w.stride := (Nat.succ_mul _ _).symm
      _ ≤ stop * w.stride := Nat.mul_le_mul_right _ (by omega)
  have hcount : (w.counts.extract start stop)[i]? = some w.counts[start + i] :=
    Array.getElem?_extract_of_lt (by rw [hw.counts_size]; omega)
  rw [sequences?, Window.extract, hcount, sequences?, Array.getElem?_eq_getElem hlt]
  simp [← Nat.add_mul, ← Nat.add_assoc, Nat.min_eq_left hlast]

lemma request?_extract (hw : w.WellFormed) {start stop : Nat} (hs : start ≤ stop) (he : stop ≤ w.size) {i : Nat}
    (hi : i < stop - start) : (w.extract start stop).request? i = w.request? (start + i) := by
  have ht : i < min stop w.tokens.size - start := by
    rw [show w.tokens.size = w.size from rfl]
    omega
  have hp : i < min stop w.positions.size - start := by rw [hw.positions_size]; omega
  have ho : i < min stop w.outputs.size - start := by rw [hw.outputs_size]; omega
  rw [request?, hw.sequences?_extract he hi, request?]
  simp only [Window.extract, Array.getElem?_extract]
  rw [if_pos ht, if_pos hp, if_pos ho]

lemma toList_extract (hw : w.WellFormed) {start stop : Nat} (hs : start ≤ stop) (he : stop ≤ w.size) :
    (w.extract start stop).toList = w.toList.extract start stop := by
  have hw' := hw.extract start he
  have hsize := w.size_extract start he
  apply List.ext_getElem?
  intro i
  rw [hw'.getElem?_toList]
  by_cases hi : i < stop - start
  · rw [hw.request?_extract hs he hi]
    simp [List.extract, hi, hw.getElem?_toList]
  · rw [request?_eq_none (by omega), List.getElem?_eq_none]
    simp [List.extract]
    omega

lemma setOutput (hw : w.WellFormed) (i : Nat) (wanted : Bool) : (w.setOutput i wanted).WellFormed :=
  ⟨hw.positions_size, hw.counts_size, by simpa [Window.setOutput] using! hw.outputs_size, hw.ids_size, hw.counts_le⟩

lemma toList_setOutput (hw : w.WellFormed) (i : Nat) (wanted : Bool) :
    (w.setOutput i wanted).toList = w.toList.modify i fun r => { r with wantsLogits := wanted } := by
  apply List.ext_getElem?
  intro j
  rw [(hw.setOutput i wanted).getElem?_toList, List.getElem?_modify, hw.getElem?_toList]
  have hsequences : (w.setOutput i wanted).sequences? j = w.sequences? j := rfl
  rw [request?, hsequences]
  simp only [Window.setOutput, Array.getElem?_setIfInBounds]
  split
  · rename_i hij
    subst hij
    split
    · rename_i hi
      simp only [request?, Array.getElem?_eq_getElem hi, Option.bind_eq_bind, Option.map_eq_map, Option.map_bind,
        Function.comp_def]
      rfl
    · rename_i hi
      rw [hw.outputs_size] at hi
      rw [request?_eq_none (Nat.le_of_not_lt hi), show w.tokens[i]? = none from Array.getElem?_eq_none (Nat.le_of_not_lt hi)]
      rfl
  · simp [request?]

end WellFormed

/-! ### Chunks -/

variable {w : Window} {limit : Nat}

lemma length_chunks (w : Window) (limit : Nat) : (w.chunks limit).length = w.size ⌈/⌉ limit := by
  simp [chunks, Nat.ceilDiv_eq_add_pred_div]

lemma toList_chunks (hw : w.WellFormed) (hl : 0 < limit) : (w.chunks limit).map toList = slices limit w.toList := by
  rw [chunks, List.map_map, slices, hw.length_toList]
  apply List.map_congr_left
  intro k hk
  have hlt := lt_slice_count hl (List.mem_range.1 hk)
  rw [Function.comp_apply, hw.toList_extract (by rw [Nat.succ_mul]; omega) (Nat.min_le_right _ _), List.extract,
    List.take_eq_take_iff, List.length_drop, hw.length_toList, Nat.succ_mul]
  omega

lemma flatMap_chunks (hw : w.WellFormed) (hl : 0 < limit) : (w.chunks limit).flatMap toList = w.toList := by
  rw [List.flatMap_def, toList_chunks hw hl, flatten_slices hl]

lemma mem_chunks (hw : w.WellFormed) (hl : 0 < limit) {c : Window} (hc : c ∈ w.chunks limit) :
    c.toList ≠ [] ∧ c.toList.length ≤ limit ∧ ∀ r ∈ c.toList, r ∈ w.toList := by
  have hmem : c.toList ∈ (w.chunks limit).map toList := List.mem_map_of_mem hc
  rw [toList_chunks hw hl] at hmem
  exact mem_slices hl hmem

lemma wellFormed_chunks (hw : w.WellFormed) {c : Window} (hc : c ∈ w.chunks limit) : c.WellFormed := by
  obtain ⟨k, -, rfl⟩ := List.mem_map.1 hc
  exact hw.extract _ (Nat.min_le_right _ _)

end Window

end DecodeBench
