import DecodeBench.Cache.Cells
import Mathlib.Tactic.Common

/-! The search for free cells is a next-fit search: it finds the first run of free cells from the
head on, else the first one at all, and gives up only if there is none. -/

namespace DecodeBench.Cache.CellTable

def Free (t : CellTable) (i : Nat) : Prop := (t.cells[i]?.map Cell.isEmpty).getD true = true

def FreeRun (t : CellTable) (count start : Nat) : Prop :=
  start + count ≤ t.size ∧ ∀ i, start ≤ i → i < start + count → t.Free i

lemma FreeRun.free {t : CellTable} {count start i : Nat} (h : t.FreeRun count start)
    (hs : start ≤ i) (hi : i < start + count) : t.Free i :=
  h.2 i hs hi

/-! ### One round -/

section Round

variable {t : CellTable} {count head tested : Nat}

lemma slice?_eq_some {start stop : Nat} (hle : start ≤ stop) (hstop : stop ≤ t.size) :
    t.slice? start stop = some (t.cells.extract start stop).toList :=
  if_pos ⟨hle, hstop⟩

lemma free_of_findIdx?_none {start : Nat}
    (h : (t.cells.extract start (start + count)).toList.findIdx? (!·.isEmpty) = none) {i : Nat} (hs : start ≤ i)
    (hi : i < start + count) : t.Free i := by
  rw [Free]
  cases hc : t.cells[i]? with
  | none => rfl
  | some c =>
    have hcell : (t.cells.extract start (start + count))[i - start]? = some c := by
      have hlt := (Array.getElem?_eq_some_iff.1 hc).1
      rw [Array.getElem?_extract, if_pos (by omega), Nat.add_sub_cancel' hs, hc]
    have hfree := List.findIdx?_eq_none_iff.1 h c (Array.mem_toList_iff.2 (Array.mem_of_getElem? hcell))
    simpa using hfree

lemma occupied_of_findIdx?_some {start k : Nat} (hfits : start + count ≤ t.size)
    (h : (t.cells.extract start (start + count)).toList.findIdx? (!·.isEmpty) = some k) :
    k < count ∧ ¬ t.Free (start + k) := by
  obtain ⟨hk, hocc, -⟩ := List.findIdx?_eq_some_iff_getElem.1 h
  have hsize : t.cells.size = t.size := rfl
  rw [Array.length_toList, Array.size_extract] at hk
  rw [Array.getElem_toList, Array.getElem_extract, Bool.not_eq_true'] at hocc
  refine ⟨by omega, ?_⟩
  rw [Free, Array.getElem?_eq_getElem (by omega), Option.map_some, Option.getD_some, hocc]
  exact Bool.false_ne_true

inductive Rounded (t : CellTable) (count head tested : Nat) : Round → Prop
  | late : t.size < head + count → t.size ≤ tested + (t.size - head) → Rounded t count head tested (.over none 0)
  | wrapped : t.size < head + count → tested + (t.size - head) < t.size →
      Rounded t count head tested (.again 0 (tested + (t.size - head)))
  | found : t.FreeRun count head → Rounded t count head tested (.over (some head) head)
  | stuck {i : Nat} : i < count → head + count ≤ t.size → ¬ t.Free (head + i) → t.size ≤ tested + i + 1 →
      Rounded t count head tested (.over none (head + i + 1))
  | blocked {i : Nat} : i < count → head + count ≤ t.size → ¬ t.Free (head + i) → tested + i + 1 < t.size →
      Rounded t count head tested (.again (head + i + 1) (tested + i + 1))

lemma round?_rounded (count tested : Nat) (hh : head ≤ t.size) :
    ∃ r, t.round? count head tested = some r ∧ t.Rounded count head tested r := by
  by_cases hlate : head + count > t.size
  · rw [round?, if_pos hlate, if_neg (Nat.not_lt.2 hh)]
    split_ifs with hdone
    · exact ⟨_, rfl, .late hlate hdone⟩
    · exact ⟨_, rfl, .wrapped hlate (Nat.lt_of_not_le hdone)⟩
  · have hfits : head + count ≤ t.size := Nat.le_of_not_lt hlate
    rw [round?, if_neg hlate, slice?_eq_some (Nat.le_add_right _ _) hfits, Option.map_some]
    refine ⟨_, rfl, ?_⟩
    split
    · rename_i hnone
      exact .found ⟨hfits, fun i => free_of_findIdx?_none hnone⟩
    · rename_i i hsome
      obtain ⟨hi, hocc⟩ := occupied_of_findIdx?_some hfits hsome
      split_ifs with hdone
      · exact .stuck hi hfits hocc hdone
      · exact .blocked hi hfits hocc (Nat.lt_of_not_le hdone)

end Round

/-! ### The rounds together -/

inductive NextFit (t : CellTable) (count origin : Nat) : Option Nat × Nat → Prop
  | ahead {s : Nat} : t.FreeRun count s → origin ≤ s → (∀ r, origin ≤ r → r < s → ¬ t.FreeRun count r) →
      NextFit t count origin (some s, s)
  | behind {s : Nat} : t.FreeRun count s → s < origin → (∀ r, origin ≤ r → ¬ t.FreeRun count r) →
      (∀ r, r < s → ¬ t.FreeRun count r) → NextFit t count origin (some s, s)
  | nowhere {head : Nat} : (∀ r, ¬ t.FreeRun count r) → (0 < head → head ≤ t.size ∧ ¬ t.Free (head - 1)) →
      NextFit t count origin (none, head)

/-- How far a search has come: on its first way to the end, or on its second from the start. -/
inductive Searched (t : CellTable) (count origin : Nat) : (head tested : Nat) → Prop
  | ahead {tested : Nat} : (∀ r, origin ≤ r → r < origin + tested → ¬ t.FreeRun count r) →
      Searched t count origin (origin + tested) tested
  | behind {head : Nat} : (∀ r, origin ≤ r → ¬ t.FreeRun count r) → (∀ r, r < head → ¬ t.FreeRun count r) →
      Searched t count origin head (t.size - origin + head)

section Search

variable {t : CellTable} {count origin head tested : Nat}

lemma not_freeRun_of_occupied {i r : Nat} (hi : i < count) (ho : ¬ t.Free (head + i)) (hr : head ≤ r)
    (hri : r < head + i + 1) : ¬ t.FreeRun count r :=
  fun hf => ho (hf.free (by omega) (by omega))

lemma not_freeRun_of_late {r : Nat} (hh : t.size < head + count) (hr : head ≤ r) : ¬ t.FreeRun count r :=
  fun hf => by have := hf.1; omega

lemma Searched.over {found : Option Nat} {head' : Nat} (ho : origin ≤ t.size) (hh : head ≤ t.size)
    (h : t.Searched count origin head tested)
    (hround : t.Rounded count head tested (.over found head')) : t.NextFit count origin (found, head') := by
  cases hround with
  | late hlate hdone =>
    refine .nowhere (fun r => ?_) (fun hpos => absurd hpos (Nat.lt_irrefl 0))
    cases h with
    | ahead hr =>
      by_cases hrh : r < origin + tested
      · exact hr r (by omega) hrh
      · exact not_freeRun_of_late hlate (by omega)
    | behind ha hb =>
      by_cases hrh : r < head
      · exact hb r hrh
      · exact not_freeRun_of_late hlate (by omega)
  | found hfree =>
    cases h with
    | ahead hr => exact .ahead hfree (by omega) hr
    | behind ha hb => exact .behind hfree (Nat.lt_of_not_le fun hle => ha _ hle hfree) ha hb
  | @stuck i hi hfits hocc hdone =>
    refine .nowhere (fun r => ?_) (fun _ => ⟨by omega, hocc⟩)
    cases h with
    | ahead hr =>
      by_cases hrh : r < origin + tested
      · exact hr r (by omega) hrh
      · by_cases hri : r < origin + tested + i + 1
        · exact not_freeRun_of_occupied hi hocc (by omega) hri
        · exact fun hf => by have := hf.1; omega
    | behind ha hb =>
      by_cases hrh : r < head
      · exact hb r hrh
      · by_cases hri : r < head + i + 1
        · exact not_freeRun_of_occupied hi hocc (by omega) hri
        · exact ha r (by omega)

lemma Searched.again {head' tested' : Nat} (ho : origin ≤ t.size) (hh : head ≤ t.size)
    (h : t.Searched count origin head tested)
    (hround : t.Rounded count head tested (.again head' tested')) :
    head' ≤ t.size ∧ t.Searched count origin head' tested' := by
  cases hround with
  | wrapped hlate hgo =>
    refine ⟨Nat.zero_le _, ?_⟩
    cases h with
    | ahead hr =>
      rw [show tested + (t.size - (origin + tested)) = t.size - origin + 0 by omega]
      refine .behind (fun r hor => ?_) (by omega)
      by_cases hrh : r < origin + tested
      · exact hr r hor hrh
      · exact not_freeRun_of_late hlate (by omega)
    | behind => omega
  | @blocked i hi hfits hocc hgo =>
    refine ⟨by omega, ?_⟩
    cases h with
    | ahead hr =>
      rw [show origin + tested + i + 1 = origin + (tested + i + 1) by omega]
      refine .ahead fun r hor hrh => ?_
      by_cases hrt : r < origin + tested
      · exact hr r hor hrt
      · exact not_freeRun_of_occupied hi hocc (by omega) (by omega)
    | behind ha hb =>
      rw [show t.size - origin + head + i + 1 = t.size - origin + (head + i + 1) by omega]
      refine .behind ha fun r hr => ?_
      by_cases hrh : r < head
      · exact hb r hrh
      · exact not_freeRun_of_occupied hi hocc (by omega) hr

lemma search?_nextFit (fits : count ≤ t.size) (ho : origin ≤ t.size) (hh : head ≤ t.size)
    (h : t.Searched count origin head tested) :
    ∃ r, t.search? count fits head tested = some r ∧ t.NextFit count origin r := by
  fun_induction search? t count fits head tested with
  | case1 head tested hnone =>
    obtain ⟨round, hround, -⟩ := round?_rounded count tested hh
    cases hnone.symm.trans hround
  | case2 head tested found head' hover =>
    obtain ⟨round, hround, hrounded⟩ := round?_rounded count tested hh
    cases hover.symm.trans hround
    exact ⟨_, rfl, h.over ho hh hrounded⟩
  | case3 head tested head' tested' hagain ih =>
    obtain ⟨round, hround, hrounded⟩ := round?_rounded count tested hh
    cases hagain.symm.trans hround
    obtain ⟨hh', h'⟩ := h.again ho hh hrounded
    exact ih hh' h'

end Search

variable {t : CellTable} {count : Nat}

lemma find?_nextFit (hc : 0 < count) (hn : count ≤ t.size) (hh : t.head ≤ t.size) :
    ∃ found head, t.find? count = some (found, { t with head }) ∧ t.NextFit count t.head (found, head) := by
  have hstart : t.Searched count t.head (t.head + 0) 0 := .ahead fun r _ _ => by omega
  obtain ⟨⟨found, head⟩, hsearch, hfit⟩ := search?_nextFit hn hh hh hstart
  refine ⟨found, head, ?_, hfit⟩
  rw [find?, dif_pos ⟨hc, hn⟩]
  exact congrArg (Option.map _) hsearch

lemma find?_of_senseless (h : ¬ (0 < count ∧ count ≤ t.size)) : t.find? count = some (none, t) :=
  dif_neg h

lemma find?_eq_none_iff : t.find? count = none ↔ 0 < count ∧ count ≤ t.size ∧ t.size < t.head := by
  by_cases hsense : 0 < count ∧ count ≤ t.size
  · by_cases hh : t.head ≤ t.size
    · obtain ⟨found, head, hfind, -⟩ := find?_nextFit hsense.1 hsense.2 hh
      simp [hfind, Nat.not_lt.2 hh]
    · have hround : t.round? count t.head 0 = none := by
        rw [round?, if_pos (by omega), if_pos (Nat.lt_of_not_le hh)]
      have hsearch : t.search? count hsense.2 t.head 0 = none := by
        rw [search?]
        split <;> simp_all
      simp [find?, hsense, hsearch, Nat.lt_of_not_le hh]
  · simp only [find?_of_senseless hsense, reduceCtorEq, false_iff]
    exact fun h => hsense ⟨h.1, h.2.1⟩

lemma find?_cases (hh : t.head ≤ t.size) (count : Nat) : ∃ head, head ≤ t.size ∧
    ((t.find? count = some (none, { t with head }) ∧ (count = 0 ∨ ∀ r, ¬ t.FreeRun count r)) ∨
      ∃ start, t.find? count = some (some start, { t with head }) ∧ 0 < count ∧ t.FreeRun count start) := by
  by_cases h : 0 < count ∧ count ≤ t.size
  · obtain ⟨found, head, hfind, hfit⟩ := find?_nextFit h.1 h.2 hh
    cases hfit with
    | ahead hrun =>
      have hfits := hrun.1
      exact ⟨head, by omega, .inr ⟨_, hfind, h.1, hrun⟩⟩
    | behind hrun =>
      have hfits := hrun.1
      exact ⟨head, by omega, .inr ⟨_, hfind, h.1, hrun⟩⟩
    | nowhere hnone hbound =>
      refine ⟨head, ?_, .inl ⟨hfind, .inr hnone⟩⟩
      rcases Nat.eq_zero_or_pos head with rfl | hpos
      · exact Nat.zero_le _
      · exact (hbound hpos).1
  · refine ⟨t.head, hh, .inl ⟨find?_of_senseless h, ?_⟩⟩
    by_cases hzero : count = 0
    · exact .inl hzero
    · refine .inr fun r hrun => ?_
      have hfits := hrun.1
      omega

end DecodeBench.Cache.CellTable
