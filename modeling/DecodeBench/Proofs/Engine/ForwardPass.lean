import DecodeBench.Transformer.Engine
import Mathlib.Tactic.Common

/-! The forward pass of an engine fails only where the device refuses one of its stages: every row has
the width of the cache, and no range goes past its cells. -/

namespace DecodeBench

namespace Cache.RowStore

variable {α : Type}

structure Alike (s s' : RowStore α) : Prop where
  cells : s'.cells = s.cells
  width : s'.width = s.width
  format : s'.format = s.format
  layers : s'.layers.size = s.layers.size

lemma Alike.refl (s : RowStore α) : s.Alike s := ⟨rfl, rfl, rfl, rfl⟩

lemma Alike.trans {s t u : RowStore α} (h : s.Alike t) (h' : t.Alike u) : s.Alike u :=
  ⟨h'.cells.trans h.cells, h'.width.trans h.width, h'.format.trans h.format, h'.layers.trans h.layers⟩

lemma accepts_of_fits {s : RowStore α} {start : Nat} {rows : List (Row α)} (hw : ∀ r ∈ rows, r.size = s.width)
    (hn : start + rows.length ≤ s.cells) : s.accepts start rows = true := by
  simpa [accepts, hn] using hw

lemma read_ok (s : RowStore α) (layer count : Nat) (hl : layer < s.layers.size) (hn : count ≤ s.cells) :
    ∃ rows, s.read layer count = .ok rows := by
  rw [read, Array.getElem?_eq_getElem hl]
  exact ⟨_, if_pos hn⟩

variable [Storable α]

lemma alike_setKeys (s : RowStore α) (layer start : Nat) (rows : List (Row α)) :
    s.Alike (s.setKeys layer start rows) := by
  constructor <;> simp [setKeys]

lemma alike_setValues (s : RowStore α) (layer start : Nat) (rows : List (Row α)) :
    s.Alike (s.setValues layer start rows) := by
  constructor <;> simp [setValues]

lemma alike_stored (s : RowStore α) (layer start : Nat) (keys values : List (Row α)) :
    s.Alike ((s.setKeys layer start keys).setValues layer start values) :=
  (s.alike_setKeys layer start keys).trans (alike_setValues _ layer start values)

lemma write?_ok {s : RowStore α} {layer start : Nat} (keys values : List (Row α)) (hl : layer < s.layers.size)
    (hk : ∀ r ∈ keys, r.size = s.width) (hv : ∀ r ∈ values, r.size = s.width)
    (hn : start + keys.length ≤ s.cells) (hword : s.cells ≤ Memory.lastWord) (hlen : values.length = keys.length) :
    s.write? layer start keys values = some (.ok (), (s.setKeys layer start keys).setValues layer start values) := by
  have hkeys : s.accepts start keys = true := accepts_of_fits hk hn
  have hvalues : (s.setKeys layer start keys).accepts start values = true :=
    accepts_of_fits hv (by rw [hlen]; exact hn)
  rw [write?, if_neg (by omega), if_neg (by omega), if_neg (by omega), hkeys]
  simp [hvalues]

end Cache.RowStore

namespace Transformer

open Cache Model

@[simp] lemma Matrix.size_apply (m : Matrix) (x : Vec) : (m.apply x).size = m.size := by
  simp [Matrix.apply]

structure LayerWeights.Fits (l : LayerWeights) (width : Nat) : Prop where
  key : l.key.size = width
  value : l.value.size = width

/-! ### What is asked of the device -/

def layerStages (first count : Nat) : List Stage :=
  (List.range' first count).flatMap fun layer => [.project layer, .attend layer]

def Work.passStages (w : Work) (layers : Nat) : List Stage :=
  .embed :: layerStages 0 layers ++ if w.requests.any (·.wantsLogits) then [.predict] else []

def Work.stages (w : Work) (layers : Nat) : List Stage := w.passStages layers ++ [.collect]

lemma forall_layerStages {completes : Stage → Bool} {first count : Nat} :
    (∀ stage ∈ layerStages first (count + 1), completes stage = true) ↔
      (completes (.project first) = true ∧ completes (.attend first) = true) ∧
        ∀ stage ∈ layerStages (first + 1) count, completes stage = true := by
  have hsucc : layerStages first (count + 1) = [.project first, .attend first] ++ layerStages (first + 1) count := rfl
  simp [hsucc, and_assoc]

structure Work.Within (w : Work) (rows : RowStore Float) : Prop where
  claimed_le : w.start + w.requests.length ≤ rows.cells
  extent_le : w.extent ≤ rows.cells
  word : rows.cells ≤ Memory.lastWord
  mask : w.mask.length = w.requests.length

lemma Work.Within.congr {w : Work} {rows rows' : RowStore Float} (h : w.Within rows) (ha : rows.Alike rows') :
    w.Within rows' :=
  ⟨ha.cells ▸ h.claimed_le, ha.cells ▸ h.extent_le, ha.cells ▸ h.word, h.mask⟩

/-! ### The layers -/

namespace State

/-- The outcome of a part of the forward pass that comes to an end just in this case. -/
structure Passed (rows : RowStore Float) (count : Nat) (completed : Prop) (r : Option (List Vec) × RowStore Float) :
    Prop where
  isSome_iff : r.1.isSome = true ↔ completed
  length : ∀ out, r.1 = some out → out.length = count
  alike : rows.Alike r.2

lemma Passed.none {rows rows' : RowStore Float} {count : Nat} {completed : Prop} (h : ¬ completed)
    (ha : rows.Alike rows') : Passed rows count completed (none, rows') :=
  ⟨by simp [h], fun _ hout => absurd hout (by simp), ha⟩

section Layers

variable {w : Work} {hidden : List Vec} {rows : RowStore Float}

lemma length_attendAll (d : Dimensions) (l : LayerWeights) (hidden : List Vec) (contexts : List (List Vec × List Vec)) :
    (attendAll d l hidden contexts).length = min hidden.length contexts.length := by
  rw [attendAll, List.length_map, List.length_zip]

lemma write?_projected {l : LayerWeights} {layer : Nat} (hw : w.Within rows) (hl : layer < rows.layers.size)
    (hfits : l.Fits rows.width) (hh : hidden.length = w.requests.length) :
    rows.write? layer w.start (hidden.map l.key.apply) (hidden.map l.value.apply) =
      some (.ok (), (rows.setKeys layer w.start (hidden.map l.key.apply)).setValues layer w.start
        (hidden.map l.value.apply)) :=
  RowStore.write?_ok _ _ hl (by simp [hfits.key]) (by simp [hfits.value]) (by simpa [hh] using hw.claimed_le) hw.word
    (by simp)

lemma runLayer_passed (d : Dimensions) (completes : Stage → Bool) {l : LayerWeights} {layer : Nat} (hw : w.Within rows)
    (hl : layer < rows.layers.size) (hfits : l.Fits rows.width) (hh : hidden.length = w.requests.length) :
    Passed rows w.requests.length (completes (.project layer) = true ∧ completes (.attend layer) = true)
      (runLayer d completes w l layer hidden rows) := by
  rw [runLayer]
  by_cases hproject : completes (.project layer) = true
  · have ha := rows.alike_stored layer w.start (hidden.map l.key.apply) (hidden.map l.value.apply)
    obtain ⟨⟨keys, values⟩, hread⟩ := RowStore.read_ok _ layer w.extent (ha.layers ▸ hl) (ha.cells ▸ hw.extent_le)
    rw [if_pos hproject, write?_projected hw hl hfits hh]
    by_cases hattend : completes (.attend layer) = true
    · simp only [if_pos hattend, attendRows?, hread]
      refine ⟨by simp [hproject, hattend], fun out hout => ?_, ha⟩
      cases hout
      rw [length_attendAll, List.length_map, hw.mask, hh, Nat.min_self]
    · simp only [if_neg hattend]
      exact .none (fun h => hattend h.2) ha
  · rw [if_neg hproject]
    exact .none (fun h => hproject h.1) (.refl rows)

lemma runLayers_passed (d : Dimensions) (completes : Stage → Bool) {ls : List LayerWeights} {layer : Nat}
    (hw : w.Within rows) (hl : layer + ls.length ≤ rows.layers.size) (hfits : ∀ l ∈ ls, l.Fits rows.width)
    (hh : hidden.length = w.requests.length) :
    Passed rows w.requests.length (∀ stage ∈ layerStages layer ls.length, completes stage = true)
      (runLayers d completes w ls layer hidden rows) := by
  induction ls generalizing layer hidden rows with
  | nil =>
    refine ⟨by simp [runLayers, layerStages], fun out hout => ?_, .refl rows⟩
    cases hout
    exact hh
  | cons l ls ih =>
    rw [List.length_cons] at hl
    have hfirst := runLayer_passed d completes hw (show layer < rows.layers.size by omega)
      (hfits l List.mem_cons_self) hh
    rw [runLayers, List.length_cons]
    rcases hrun : runLayer d completes w l layer hidden rows with ⟨_ | next, rows'⟩
    · rw [hrun] at hfirst
      refine .none ?_ hfirst.alike
      rw [forall_layerStages, ← hfirst.isSome_iff]
      simp
    · rw [hrun] at hfirst
      have ha := hfirst.alike
      have hrest := ih (hw.congr ha) (show layer + 1 + ls.length ≤ rows'.layers.size by rw [ha.layers]; omega)
        (fun l' hl' => ha.width ▸ hfits l' (List.mem_cons_of_mem _ hl')) (hfirst.length next rfl)
      refine ⟨?_, hrest.length, ha.trans hrest.alike⟩
      rw [forall_layerStages, ← hfirst.isSome_iff, ← hrest.isSome_iff]
      simp

end Layers

/-! ### The pass -/

structure Shaped (s : State) : Prop where
  cells : s.rows.cells = s.table.size
  word : s.rows.cells ≤ Memory.lastWord
  count : s.weights.layers.length = s.dimensions.layers
  layers : s.weights.layers.length ≤ s.rows.layers.size
  fits : ∀ l ∈ s.weights.layers, l.Fits s.rows.width

lemma Shaped.congr {s s' : State} (h : s.Shaped) (hr : s.rows.Alike s'.rows) (ht : s'.table.size = s.table.size)
    (hw : s'.weights = s.weights) (hd : s'.dimensions = s.dimensions) : s'.Shaped where
  cells := by rw [hr.cells, h.cells, ht]
  word := by rw [hr.cells]; exact h.word
  count := by rw [hw, hd]; exact h.count
  layers := by rw [hw, hr.layers]; exact h.layers
  fits := by rw [hw, hr.width]; exact h.fits

lemma length_wanted {hidden : List Vec} {rs : List Request} (h : hidden.length = rs.length) :
    ((hidden.zip rs).filterMap fun (x, r) => if r.wantsLogits then some x else none).length =
      rs.countP (·.wantsLogits) := by
  induction rs generalizing hidden with
  | nil => simp
  | cons r rs ih =>
    cases hidden with
    | nil => simp at h
    | cons x hidden =>
      rw [List.length_cons, List.length_cons, Nat.add_right_cancel_iff] at h
      cases hr : r.wantsLogits <;> simp [hr, ih h]

variable {s : State} {w : Work}

lemma predict?_isSome {hidden : List Vec} (h : hidden.length = w.requests.length) :
    (s.predict? w hidden).isSome = true ↔ (w.requests.any (·.wantsLogits) = true → s.completes w .predict = true) := by
  have hnone : ((hidden.zip w.requests).filterMap fun (x, r) => if r.wantsLogits then some x else none).isEmpty = true ↔
      w.requests.any (·.wantsLogits) = false := by
    rw [List.isEmpty_iff_length_eq_zero, length_wanted h, List.countP_eq_zero, List.any_eq_false]
  rw [predict?]
  cases hany : w.requests.any (·.wantsLogits)
  · rw [hany, eq_self_iff_true, iff_true] at hnone
    simp [hnone]
  · rw [hany, Bool.true_eq_false, iff_false] at hnone
    simp [hnone]

lemma length_predict? {hidden logits : List Vec} (h : hidden.length = w.requests.length)
    (hlogits : s.predict? w hidden = some logits) : logits.length = w.requests.countP (·.wantsLogits) := by
  simp only [predict?] at hlogits
  split_ifs at hlogits
  cases hlogits
  rw [List.length_map, length_wanted h]

lemma forall_passStages {completes : Stage → Bool} {layers : Nat} :
    (∀ stage ∈ w.passStages layers, completes stage = true) ↔
      completes .embed = true ∧ (∀ stage ∈ layerStages 0 layers, completes stage = true) ∧
        (w.requests.any (·.wantsLogits) = true → completes .predict = true) := by
  cases hany : w.requests.any (·.wantsLogits) <;> simp [Work.passStages, hany, or_imp, forall_and]

lemma forward_passed (h : s.Shaped) (hw : w.Within s.rows) : Passed s.rows (w.requests.countP (·.wantsLogits))
    (∀ stage ∈ w.passStages s.dimensions.layers, s.completes w stage = true) (s.forward w) := by
  have hembedded : (s.embed w.requests).length = w.requests.length := by rw [embed, List.length_map]
  have hlayers := runLayers_passed s.dimensions (s.completes w) hw
    (show 0 + s.weights.layers.length ≤ s.rows.layers.size by simpa using h.layers) h.fits hembedded
  rw [h.count] at hlayers
  rw [forall_passStages, forward]
  by_cases hembed : s.completes w .embed = true
  · rw [if_pos hembed]
    rcases hrun : runLayers s.dimensions (s.completes w) w s.weights.layers 0 (s.embed w.requests) s.rows with
      ⟨_ | hidden, rows⟩
    · rw [hrun] at hlayers
      refine .none ?_ hlayers.alike
      rw [← hlayers.isSome_iff]
      simp
    · rw [hrun] at hlayers
      have hhidden := hlayers.length hidden rfl
      refine ⟨?_, fun out hout => length_predict? hhidden hout, hlayers.alike⟩
      rw [← hlayers.isSome_iff, ← predict?_isSome hhidden]
      simp [hembed]
  · rw [if_neg hembed]
    exact .none (fun h => hembed h.1) (.refl s.rows)

end State

end Transformer

end DecodeBench
