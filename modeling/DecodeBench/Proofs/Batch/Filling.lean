import DecodeBench.Batch
import DecodeBench.Proofs.Batch.WindowLists

/-! A batch with enough room takes all the requests that it is filled with, and lists them. -/

namespace DecodeBench

namespace Window

def ofList (stride : Nat) (rs : List Request) : Window := rs.foldl push (empty stride)

lemma wellFormed_foldl {w : Window} {rs : List Request} (hw : w.WellFormed)
    (hr : ∀ r ∈ rs, r.sequences.length ≤ w.stride) :
    (rs.foldl push w).WellFormed ∧ (rs.foldl push w).toList = w.toList ++ rs := by
  induction rs generalizing w with
  | nil => exact ⟨hw, by simp⟩
  | cons r rs ih =>
    obtain ⟨hr, hrs⟩ := List.forall_mem_cons.1 hr
    obtain ⟨hwf, hlist⟩ := ih (hw.push hr) (by simpa using hrs)
    exact ⟨hwf, by rw [List.foldl_cons, hlist, hw.toList_push hr, List.append_assoc, List.singleton_append]⟩

variable {stride : Nat} {rs : List Request}

lemma wellFormed_ofList (hr : ∀ r ∈ rs, r.sequences.length ≤ stride) : (ofList stride rs).WellFormed :=
  (wellFormed_foldl (wellFormed_empty stride) hr).1

lemma toList_ofList (hr : ∀ r ∈ rs, r.sequences.length ≤ stride) : (ofList stride rs).toList = rs := by
  simpa using! (wellFormed_foldl (wellFormed_empty stride) hr).2

lemma size_ofList (hr : ∀ r ∈ rs, r.sequences.length ≤ stride) : (ofList stride rs).size = rs.length := by
  rw [← (wellFormed_ofList hr).length_toList, toList_ofList hr]

end Window

namespace Batch

structure Alike (b b' : Batch) : Prop where
  capacity : b'.capacity = b.capacity
  stride : b'.window.stride = b.window.stride

lemma Alike.refl (b : Batch) : b.Alike b := ⟨rfl, rfl⟩

lemma Alike.trans {a b c : Batch} (h : a.Alike b) (h' : b.Alike c) : a.Alike c :=
  ⟨h'.capacity.trans h.capacity, h'.stride.trans h.stride⟩

lemma Alike.stride_pos {capacity ids : Nat} {b : Batch} (h : (empty capacity ids).Alike b) : 1 ≤ b.window.stride := by
  rw [h.stride]
  exact Nat.le_max_right ids 1

lemma alike_clear (b : Batch) : b.Alike b.clear := ⟨rfl, rfl⟩

lemma alike_add (b : Batch) (r : Request) : b.Alike (b.add r) := ⟨rfl, rfl⟩

lemma alike_wantLast (b : Batch) : b.Alike b.wantLast := ⟨rfl, rfl⟩

lemma alike_fillFrom (request : Nat → Request) (count k : Nat) (b : Batch) :
    b.Alike (b.fillFrom request count k).2 := by
  induction count generalizing k b with
  | zero => exact .refl b
  | succ count ih =>
    rw [fillFrom]
    split
    · exact .refl b
    · exact (alike_add b (request k)).trans (ih (k + 1) (b.add (request k)))

lemma refusal?_eq_none {b : Batch} {r : Request} (hs : b.size < b.capacity)
    (hr : r.sequences.length ≤ b.window.stride) : b.refusal? r = none := by
  rw [refusal?, if_neg (by omega), if_neg (by omega)]

lemma fillFrom_ok {request : Nat → Request} {count k : Nat} {b : Batch} (hroom : b.size + count ≤ b.capacity)
    (hr : ∀ i, (request i).sequences.length ≤ b.window.stride) :
    b.fillFrom request count k =
      (.ok (), { b with window := ((List.range' k count).map request).foldl Window.push b.window }) := by
  induction count generalizing k b with
  | zero => rfl
  | succ count ih =>
    have hsize : (b.add (request k)).size = b.size + 1 := Window.size_push b.window (request k)
    have hcapacity : (b.add (request k)).capacity = b.capacity := rfl
    rw [fillFrom, refusal?_eq_none (by omega) (hr k)]
    exact ih (by omega) hr

def holding (b : Batch) (rs : List Request) : Batch := { b with window := .ofList b.window.stride rs }

lemma alike_holding (b : Batch) (rs : List Request) : b.Alike (b.holding rs) := by
  refine ⟨rfl, ?_⟩
  have hstride : ∀ w : Window, (rs.foldl Window.push w).stride = w.stride := by
    intro w
    induction rs generalizing w with
    | nil => rfl
    | cons r rs ih => exact ih (w.push r)
  exact hstride _

lemma fill_clear {request : Nat → Request} {count : Nat} {b : Batch} (hroom : count ≤ b.capacity)
    (hr : ∀ i, (request i).sequences.length ≤ b.window.stride) :
    b.clear.fill request count = (.ok (), b.holding ((List.range count).map request)) := by
  have hsize : b.clear.size = 0 := rfl
  have hcapacity : b.clear.capacity = b.capacity := rfl
  have hstride : b.clear.window.stride = b.window.stride := rfl
  rw [fill, fillFrom_ok (by omega) (by rwa [hstride]), ← List.range_eq_range']
  rfl

end Batch

end DecodeBench
