import DecodeBench.Proofs.Cache.Search
import Mathlib.Order.Bounds.Defs

/-! The search for free cells round by round. It ends after so many rounds that two are enough for
each cell, stays inside the table on the way, and takes the first run of free cells from the head
on, else the first one at all. -/

namespace DecodeBench.Cache.CellTable

def rounds? (t : CellTable) (count : Nat) : (rounds head tested : Nat) → Option (Option Nat × Nat)
  | 0, _, _ => none
  | rounds + 1, head, tested =>
    match t.round? count head tested with
    | none => none
    | some (.over found head) => some (found, head)
    | some (.again head tested) => t.rounds? count rounds head tested

def findWithin? (t : CellTable) (rounds count : Nat) : Option (Option Nat × CellTable) :=
  if 0 < count ∧ count ≤ t.size then
    (t.rounds? count rounds t.head 0).map fun (found, head) => (found, { t with head })
  else some (none, t)

variable {t : CellTable}

lemma rounds?_eq {count head tested rounds : Nat} (fits : count ≤ t.size)
    (hr : t.roundsLeft count head tested < rounds) :
    t.rounds? count rounds head tested = t.search? count fits head tested := by
  obtain ⟨rounds, rfl⟩ := Nat.exists_eq_succ_of_ne_zero (Nat.ne_zero_of_lt hr)
  fun_induction search? t count fits head tested generalizing rounds with
  | case1 head tested hnone => rw [rounds?, hnone]
  | case2 head tested found head' hover => rw [rounds?, hover]
  | case3 head tested head' tested' hagain ih =>
    have hleft : t.roundsLeft count head' tested' < rounds :=
      Nat.lt_of_lt_of_le (roundsLeft_lt fits hagain) (Nat.le_of_lt_succ hr)
    obtain ⟨rounds, rfl⟩ := Nat.exists_eq_succ_of_ne_zero (Nat.ne_zero_of_lt hleft)
    rw [rounds?, hagain]
    exact ih rounds hleft

lemma findWithin?_eq (count : Nat) {rounds : Nat} (hr : 2 * t.size + 1 < rounds) :
    t.findWithin? rounds count = t.find? count := by
  rw [findWithin?, find?]
  split_ifs with hsense
  · have hleft : t.roundsLeft count t.head 0 < rounds := by
      rw [roundsLeft]
      split_ifs <;> omega
    rw [rounds?_eq hsense.2 hleft]
  · rfl

/-! ### What is found -/

lemma FreeRun.congr {t' : CellTable} (h : t'.cells = t.cells) (count start : Nat) :
    t'.FreeRun count start ↔ t.FreeRun count start := by
  simp only [FreeRun, Free, size, h]

lemma NextFit.isLeast {count origin s head : Nat} (h : t.NextFit count origin (some s, head)) : head = s ∧
    (IsLeast {r | origin ≤ r ∧ t.FreeRun count r} s ∨
      (∀ r, origin ≤ r → ¬ t.FreeRun count r) ∧ IsLeast {r | t.FreeRun count r} s) := by
  cases h with
  | ahead hrun hle hfirst =>
    refine ⟨rfl, .inl ⟨⟨hle, hrun⟩, ?_⟩⟩
    rintro r ⟨hr, hrun'⟩
    exact Nat.le_of_not_lt fun hlt => hfirst r hr hlt hrun'
  | behind hrun _ hnone hfirst =>
    refine ⟨rfl, .inr ⟨hnone, hrun, fun r hrun' => ?_⟩⟩
    exact Nat.le_of_not_lt fun hlt => hfirst r hlt hrun'

lemma find?_isLeast (hh : t.head ≤ t.size) {count s head : Nat}
    (h : t.find? count = some (some s, { t with head })) : head = s ∧
      (IsLeast {r | t.head ≤ r ∧ t.FreeRun count r} s ∨
        (∀ r, t.head ≤ r → ¬ t.FreeRun count r) ∧ IsLeast {r | t.FreeRun count r} s) := by
  have hsense : 0 < count ∧ count ≤ t.size := by
    by_contra hn
    rw [find?_of_senseless hn] at h
    cases h
  obtain ⟨found, head', hfind, hfit⟩ := find?_nextFit hsense.1 hsense.2 hh
  cases h.symm.trans hfind
  exact hfit.isLeast

lemma find?_returns (hh : t.head ≤ t.size) (count : Nat) : ∃ found head,
    t.find? count = some (found, { t with head }) ∧ head ≤ t.size ∧
      (found = none ↔ count = 0 ∨ ∀ s, ¬ t.FreeRun count s) := by
  obtain ⟨head, hle, ⟨hfind, hnone⟩ | ⟨start, hfind, hpos, hrun⟩⟩ := find?_cases hh count
  · exact ⟨none, head, hfind, hle, fun _ => hnone, fun _ => rfl⟩
  · have hsense : ¬ (count = 0 ∨ ∀ s, ¬ t.FreeRun count s) := by
      rintro (rfl | hnone)
      · exact absurd hpos (Nat.lt_irrefl 0)
      · exact hnone start hrun
    exact ⟨some start, head, hfind, hle, fun h => absurd h (Option.some_ne_none start), fun h => absurd h hsense⟩

theorem next_free_run_is_found (hh : t.head ≤ t.size) (count : Nat) : ∃ found head,
    t.find? count = some (found, { t with head }) ∧ head ≤ t.size ∧
    (∀ rounds, 2 * t.size + 1 < rounds → t.findWithin? rounds count = t.find? count) ∧
    (found = none ↔ count = 0 ∨ ∀ s, ¬ t.FreeRun count s) ∧
    (∀ s, found = some s → head = s ∧
      (IsLeast {r | t.head ≤ r ∧ t.FreeRun count r} s ∨
        (∀ r, t.head ≤ r → ¬ t.FreeRun count r) ∧ IsLeast {r | t.FreeRun count r} s)) ∧
    ∀ t' : CellTable, t'.cells = t.cells → t'.head ≤ t'.size → ∃ found' head',
      t'.find? count = some (found', { t' with head := head' }) ∧ found'.isSome = found.isSome := by
  obtain ⟨found, head, hfind, hle, hnone⟩ := find?_returns hh count
  refine ⟨found, head, hfind, hle, fun rounds => findWithin?_eq count, hnone, fun s hs => ?_, fun t' hcells hh' => ?_⟩
  · exact find?_isLeast hh (hs ▸ hfind)
  · obtain ⟨found', head', hfind', -, hnone'⟩ := find?_returns hh' count
    refine ⟨found', head', hfind', ?_⟩
    rw [Bool.eq_iff_iff, Option.isSome_iff_ne_none, Option.isSome_iff_ne_none, Ne, Ne, hnone', hnone]
    simp only [FreeRun.congr hcells]

theorem run_before_the_head_is_found :
    let s : SequenceSet := .ofList [5]
    let t : CellTable := ⟨#[⟨0, s⟩, .empty, .empty, ⟨1, s⟩, .empty], 3, 2⟩
    t.head ≤ t.size ∧ t.find? 1 = some (some 4, { t with head := 4 }) ∧
      t.find? 2 = some (some 1, { t with head := 1 }) ∧ ∃ head, t.find? 3 = some (none, { t with head }) := by
  intro s t
  have hh : t.head ≤ t.size := by decide
  have hfind : ∀ count, t.find? count = t.findWithin? 12 count := fun count => by
    obtain ⟨found, head, -, -, hrounds, -⟩ := next_free_run_is_found hh count
    exact (hrounds 12 (by decide)).symm
  refine ⟨hh, ?_, ?_, 4, ?_⟩
  · rw [hfind]
    rfl
  · rw [hfind]
    rfl
  · rw [hfind]
    rfl

end DecodeBench.Cache.CellTable
