import DecodeBench.Proofs.Lists
import DecodeBench.Sweep.Config

/-! The grid points of a sweep by their number. -/

namespace DecodeBench.Sweep.Config

lemma fault?_eq_none {c : Config} : c.fault? = none ↔
    c.promptLengths ≠ [] ∧ c.genLengths ≠ [] ∧ c.parallelism ≠ [] ∧
      (∀ n ∈ c.parallelism, n ≠ 0 ∧ n ≤ c.sequenceLimit) ∧ c.repeatCount ≠ 0 ∧ c.cacheBudget ≠ 0 ∧ c.chunkSize ≠ 0 := by
  have hnone : 0 ∉ c.parallelism ↔ ∀ n ∈ c.parallelism, n ≠ 0 :=
    ⟨fun h n hn hzero => h (hzero ▸ hn), fun h hn => h 0 hn rfl⟩
  have hmany : c.parallelism.find? (fun n => decide (n > c.sequenceLimit)) = none ↔
      ∀ n ∈ c.parallelism, n ≤ c.sequenceLimit := by simp
  simp only [fault?, List.isEmpty_iff, forall_and, ← hnone, ← hmany]
  clear hnone hmany
  cases c.parallelism.find? (fun n => decide (n > c.sequenceLimit)) with
  | some n => split_ifs <;> simp
  | none => split_ifs <;> grind

lemma fault?_of_valid {c : Config} (h : c.validate = .ok ()) : c.fault? = none := by
  rw [validate] at h
  split at h
  · cases h
  · assumption

lemma bounds_of_valid {c : Config} (h : c.validate = .ok ()) :
    0 < c.genLengths.length ∧ 0 < c.parallelism.length ∧ c.chunkSize ≠ 0 := by
  obtain ⟨-, hg, hn, -, -, -, hl⟩ := fault?_eq_none.1 (fault?_of_valid h)
  exact ⟨List.length_pos_iff.2 hg, List.length_pos_iff.2 hn, hl⟩

variable (c : Config)

lemma length_pointsOf (promptLength : Nat) :
    (c.genLengths.flatMap fun g => c.parallelism.map fun n => (⟨promptLength, g, n⟩ : GridPoint)).length =
      c.genLengths.length * c.parallelism.length := by
  simp only [List.length_flatMap, List.length_map, List.map_const', List.sum_replicate_nat]

lemma length_points : c.points.length = c.promptLengths.length * (c.genLengths.length * c.parallelism.length) := by
  rw [points, List.length_flatMap]
  simp only [length_pointsOf, List.map_const', List.sum_replicate_nat]

lemma getElem?_points (hg : 0 < c.genLengths.length) (hn : 0 < c.parallelism.length) (k : Nat) : c.points[k]? = do
    let promptLength ← c.promptLengths[k / (c.genLengths.length * c.parallelism.length)]?
    let genLength ← c.genLengths[k / c.parallelism.length % c.genLengths.length]?
    let parallelism ← c.parallelism[k % c.parallelism.length]?
    return ⟨promptLength, genLength, parallelism⟩ := by
  rw [points, getElem?_flatMap c.length_pointsOf (Nat.mul_pos hg hn)]
  congr 1
  funext promptLength
  rw [getElem?_flatMap (m := c.parallelism.length) (by simp) hn, Nat.mod_mul_left_div_self]
  congr 1
  funext genLength
  rw [Nat.mod_mul_left_mod, List.getElem?_map]
  cases c.parallelism[k % c.parallelism.length]? <;> rfl

end DecodeBench.Sweep.Config
