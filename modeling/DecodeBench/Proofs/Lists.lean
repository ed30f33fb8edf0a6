import DecodeBench.Overwrite
import Mathlib.Algebra.Order.Floor.Div
import Mathlib.Data.List.Basic
import Mathlib.Tactic.Common

/-! Lists in pieces of one length, and arrays written over from one place on. -/

namespace DecodeBench

def slices {α : Type} (limit : Nat) (xs : List α) : List (List α) :=
  (List.range (xs.length ⌈/⌉ limit)).map fun k => (xs.drop (k * limit)).take limit

section Slices

variable {α : Type} {limit : Nat} {xs : List α}

@[simp] lemma length_slices : (slices limit xs).length = xs.length ⌈/⌉ limit := by
  simp [slices]

lemma lt_slice_count {k size : Nat} (hl : 0 < limit) (hk : k < size ⌈/⌉ limit) : k * limit < size := by
  have hle := (Nat.le_div_iff_mul_le hl).1 hk
  rw [Nat.succ_mul] at hle
  omega

lemma flatten_take_slices {k : Nat} (hk : k ≤ xs.length ⌈/⌉ limit) :
    ((slices limit xs).take k).flatten = xs.take (k * limit) := by
  induction k with
  | zero => simp
  | succ k ih =>
    have hlast : (slices limit xs)[k]? = some ((xs.drop (k * limit)).take limit) := by
      rw [slices, List.getElem?_map, List.getElem?_range (Nat.lt_of_succ_le hk), Option.map_some]
    rw [List.take_add_one, hlast, List.flatten_append, ih (Nat.le_of_succ_le hk), Nat.succ_mul, List.take_add]
    simp

lemma flatten_slices (hl : 0 < limit) : (slices limit xs).flatten = xs := by
  have hall := flatten_take_slices (Nat.le_refl (xs.length ⌈/⌉ limit))
  have hlength := (ceilDiv_le_iff_le_mul hl).1 (Nat.le_refl (xs.length ⌈/⌉ limit))
  rwa [Nat.mul_comm, List.take_of_length_le (Nat.le_of_eq length_slices), List.take_of_length_le hlength] at hall

example : slices 2 [1, 2, 3] = [[1, 2], [3]] := by decide

lemma mem_slices (hl : 0 < limit) {ys : List α} (h : ys ∈ slices limit xs) :
    ys ≠ [] ∧ ys.length ≤ limit ∧ ∀ x ∈ ys, x ∈ xs := by
  obtain ⟨k, hk, rfl⟩ := List.mem_map.1 h
  have hlt := lt_slice_count hl (List.mem_range.1 hk)
  refine ⟨?_, List.length_take_le _ _, fun x hx => List.mem_of_mem_drop (List.mem_of_mem_take hx)⟩
  rw [← List.length_pos_iff, List.length_take, List.length_drop]
  omega

end Slices

/-! ### Blocks of one length -/

lemma last_of_grid {n m k : Nat} (hk : k < n * m) : k + 1 = n * m ↔ k / m + 1 = n ∧ k % m + 1 = m := by
  have hm : 0 < m := Nat.pos_of_mul_pos_left (Nat.zero_lt_of_lt hk)
  have hsplit := Nat.div_add_mod k m
  have hcolumn := Nat.mod_lt k hm
  have hrow : k / m + 1 ≤ n := (Nat.div_lt_iff_lt_mul hm).2 hk
  rw [Nat.mul_comm] at hsplit
  constructor
  · intro hlast
    have hle : n * m ≤ (k / m + 1) * m := by
      rw [Nat.succ_mul]
      omega
    have hn : k / m + 1 = n := Nat.le_antisymm hrow (Nat.le_of_mul_le_mul_right hle hm)
    refine ⟨hn, ?_⟩
    rw [← hn, Nat.succ_mul] at hlast
    omega
  · rintro ⟨hn, hcol⟩
    rw [← hn, Nat.succ_mul]
    omega

lemma getElem?_flatMap {α β : Type} {f : α → List β} {m : Nat} (hf : ∀ x, (f x).length = m) (hm : 0 < m) (xs : List α)
    (k : Nat) : (xs.flatMap f)[k]? = xs[k / m]?.bind fun x => (f x)[k % m]? := by
  induction xs generalizing k with
  | nil => rfl
  | cons x xs ih =>
    rw [List.flatMap_cons]
    rcases Nat.lt_or_ge k m with hlt | hge
    · rw [List.getElem?_append_left (by rwa [hf]), Nat.div_eq_of_lt hlt, Nat.mod_eq_of_lt hlt]
      rfl
    · rw [List.getElem?_append_right (by rwa [hf]), hf, ih, Nat.div_eq_sub_div hm hge, Nat.mod_eq_sub_mod hge]
      rfl

lemma map_range_mul {α : Type} (f : Nat → Nat → α) (n m : Nat) :
    (List.range (n * m)).map (fun k => f (k / m) (k % m)) = (List.range n).flatMap fun i => (List.range m).map (f i) := by
  induction n with
  | zero => simp
  | succ n ih =>
    rw [Nat.succ_mul, List.range_add, List.map_append, ih, List.range_succ, List.flatMap_append, List.flatMap_singleton,
      List.map_map]
    congr 1
    refine List.map_congr_left fun j hj => ?_
    have hlt := List.mem_range.1 hj
    have hpos : 0 < m := Nat.zero_lt_of_lt hlt
    rw [Function.comp_apply, Nat.mul_comm n, Nat.mul_add_div hpos, Nat.mul_add_mod, Nat.div_eq_of_lt hlt,
      Nat.mod_eq_of_lt hlt, Nat.add_zero]

/-! ### Writing over -/

section Overwritten

variable {α : Type} {xs : Array α} {start : Nat} {new : List α}

@[simp] lemma size_overwritten : (overwritten xs start new).size = xs.size := by
  induction new generalizing xs start with
  | nil => rfl
  | cons x new ih => simp [overwritten, ih]

lemma getElem?_overwritten (h : start + new.length ≤ xs.size) (i : Nat) : (overwritten xs start new)[i]? =
    if start ≤ i ∧ i < start + new.length then new[i - start]? else xs[i]? := by
  induction new generalizing xs start with
  | nil => rw [overwritten, if_neg (by rw [List.length_nil]; omega)]
  | cons x new ih =>
    rw [List.length_cons] at h
    rw [overwritten, ih (by rw [Array.size_setIfInBounds]; omega), Array.getElem?_setIfInBounds, List.length_cons]
    rcases Nat.lt_trichotomy start i with hlt | rfl | hgt
    · rw [if_neg (Nat.ne_of_lt hlt), show i - start = i - (start + 1) + 1 by omega, List.getElem?_cons_succ]
      split_ifs <;> first | rfl | omega
    · rw [if_neg (by omega), if_pos rfl, if_pos (by omega), if_pos (by omega), Nat.sub_self, List.getElem?_cons_zero]
    · rw [if_neg (by omega), if_neg (by omega), if_neg (by omega)]

lemma toList_overwritten {before old after : List α} (h : xs.toList = before ++ old ++ after)
    (hlen : old.length = new.length) : (overwritten xs before.length new).toList = before ++ new ++ after := by
  induction new generalizing xs before old with
  | nil => simp_all [overwritten]
  | cons x new ih =>
    cases old with
    | nil => simp at hlen
    | cons o old =>
      have hset : (xs.setIfInBounds before.length x).toList = (before ++ [x]) ++ old ++ after := by
        simp [h]
      simpa [overwritten] using ih hset (by simpa using hlen)

end Overwritten

/-! ### The last of a range -/

lemma modify_last_map_range {α : Type} (f : Nat → α) (g : α → α) (n : Nat) :
    ((List.range n).map f).modify (n - 1) g = (List.range n).map fun k => if k + 1 = n then g (f k) else f k := by
  apply List.ext_getElem?
  intro k
  rw [List.getElem?_modify, List.getElem?_map, List.getElem?_map]
  rcases Nat.lt_or_ge k n with hlt | hge
  · rw [List.getElem?_range hlt]
    by_cases hk : k + 1 = n
    · simp [← hk]
    · simp [hk, show n - 1 ≠ k by omega]
  · rw [List.getElem?_eq_none (by simpa using hge)]
    simp

end DecodeBench
