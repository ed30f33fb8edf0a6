import DecodeBench.Proofs.Trial.Schedule
import DecodeBench.Sweep.Config

/-! Admitted points need no more cells than the budget, so a batch as large as the budget holds their trials. -/

namespace DecodeBench

namespace GridPoint

variable {p : GridPoint} {shared : Bool} {budget slots : Nat}

lemma requiredSlots_eq_min : p.requiredSlots shared = min (p.need shared) unboundedNeed := by
  rw [requiredSlots, need]
  split
  · rw [saturatingAdd, saturatingMul]
    omega
  · rw [saturatingMul, saturatingAdd]
    by_cases hsum : p.promptLength + p.genLength ≤ unboundedNeed
    · rw [Nat.min_eq_left hsum]
    · rw [Nat.min_eq_right (show unboundedNeed ≤ p.promptLength + p.genLength by omega)]
      rcases Nat.eq_zero_or_pos p.parallelism with hzero | hpos
      · rw [hzero, Nat.zero_mul, Nat.zero_mul]
      · have hle := Nat.le_mul_of_pos_left unboundedNeed hpos
        have hle' := Nat.mul_le_mul_left p.parallelism (show unboundedNeed ≤ p.promptLength + p.genLength by omega)
        omega

lemma admission_slots : (p.admission shared budget).slots = p.requiredSlots shared := by
  rw [admission]
  split <;> rfl

lemma need_le_of_admitted (h : (p.admission shared budget).isAdmitted = true) : p.need shared ≤ budget := by
  rw [admission] at h
  split at h
  · rename_i hfits
    rw [requiredSlots_eq_min] at hfits
    omega
  · cases h

end GridPoint

lemma Trial.holds_of_need_le {b : Batch} {o : TrialOptions} {p : GridPoint} (hn : p.need o.shared ≤ b.capacity)
    (hids : 1 ≤ b.window.stride) : Holds b o p := by
  rw [GridPoint.need] at hn
  refine ⟨?_, fun hgen => ?_, hids⟩
  · rw [GridPoint.promptCopies]
    split_ifs at hn ⊢
    · omega
    · rw [Nat.mul_add, Nat.mul_comm] at hn
      omega
  · split_ifs at hn
    · have hle := Nat.le_mul_of_pos_right p.parallelism hgen
      omega
    · have hle := Nat.le_mul_of_pos_right p.parallelism (show 0 < p.promptLength + p.genLength by omega)
      omega

end DecodeBench
