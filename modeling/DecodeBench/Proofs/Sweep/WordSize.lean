import DecodeBench.Proofs.Sweep.Admission
import DecodeBench.Proofs.Trial.Requests

/-! A point is admitted by its need as it is without saturation. Whatever is added up or multiplied
for it afterwards in plain 64-bit words is then right, and within the budget. -/

namespace DecodeBench

structure WithinWord (word : UInt64) (n bound : Nat) : Prop where
  toNat_eq : word.toNat = n
  le : n ≤ bound

namespace GridPoint

open Trial

structure PlainNumbers (p : GridPoint) (o : TrialOptions) (bound : Nat) : Prop where
  prompt : WithinWord (.ofNat (promptRequests p o).length) (promptRequests p o).length bound
  step : 0 < p.genLength → ∀ i, WithinWord (.ofNat (stepRequests p o i).length) (stepRequests p o i).length bound
  position : ∀ i < p.genLength, ∀ j,
    WithinWord (.ofNat p.promptLength + .ofNat i) (p.nextRequest o i j).position bound
  promptTokens : o.shared = false →
    WithinWord (.ofNat p.parallelism * .ofNat p.promptLength) (Measurement.prefillTokens p o.shared) bound
  genTokens : WithinWord (.ofNat p.parallelism * .ofNat p.genLength) (p.parallelism * p.genLength) bound

lemma promptTokens_le_need (p : GridPoint) (shared : Bool) : Measurement.prefillTokens p shared ≤ p.need shared := by
  cases shared
  · exact Nat.mul_le_mul_left _ (Nat.le_add_right _ _)
  · exact Nat.le_add_right _ _

lemma genTokens_le_need (p : GridPoint) (shared : Bool) : p.parallelism * p.genLength ≤ p.need shared := by
  cases shared
  · exact Nat.mul_le_mul_left _ (Nat.le_add_left _ _)
  · exact Nat.le_add_left _ _

variable {p : GridPoint} {o : TrialOptions}

lemma length_le_need (hone : 1 ≤ p.parallelism) (shared : Bool) : p.promptLength + p.genLength ≤ p.need shared := by
  cases shared
  · exact Nat.le_mul_of_pos_left _ hone
  · exact Nat.add_le_add_left (Nat.le_mul_of_pos_left _ hone) _

lemma plainNumbers_of_need {bound : Nat} (hone : 1 ≤ p.parallelism) (hword : p.need o.shared < 2 ^ 64)
    (hbound : p.need o.shared ≤ bound) : p.PlainNumbers o bound := by
  have hfits : ∀ n, n ≤ p.need o.shared → WithinWord (.ofNat n) n bound := fun n hn =>
    ⟨UInt64.toNat_ofNat_of_lt' (Nat.lt_of_le_of_lt hn hword), Nat.le_trans hn hbound⟩
  have hprompt := p.promptTokens_le_need o.shared
  have hgen := p.genTokens_le_need o.shared
  refine ⟨?_, fun hpos i => ?_, fun i hi j => ?_, fun hshared => ?_, ?_⟩
  · apply hfits
    rwa [length_promptRequests, length_prompt_eq]
  · apply hfits
    rw [stepRequests, List.length_map, List.length_range]
    exact Nat.le_trans (Nat.le_mul_of_pos_right _ hpos) hgen
  · rw [← UInt64.ofNat_add]
    apply hfits
    have hlength := length_le_need hone o.shared
    omega
  · rw [← UInt64.ofNat_mul]
    rw [hshared] at hprompt ⊢
    exact hfits _ (hshared ▸ hprompt)
  · rw [← UInt64.ofNat_mul]
    exact hfits _ hgen

lemma admission_eq (shared : Bool) (budget : Nat) : p.admission shared budget =
    if p.need shared ≤ budget ∧ p.need shared < 2 ^ 64 - 1 then .admitted (p.requiredSlots shared)
    else .rejected (p.requiredSlots shared) := by
  have hiff : (p.requiredSlots shared ≤ budget ∧ p.requiredSlots shared ≠ unboundedNeed) ↔
      p.need shared ≤ budget ∧ p.need shared < 2 ^ 64 - 1 := by
    rw [requiredSlots_eq_min, show unboundedNeed = 2 ^ 64 - 1 from rfl]
    omega
  simp only [admission, hiff]

theorem admitted_points_fit_words (p : GridPoint) (o : TrialOptions) (budget : Nat) :
    p.requiredSlots o.shared = min (p.need o.shared) (2 ^ 64 - 1) ∧
    p.admission o.shared budget =
      (if p.need o.shared ≤ budget ∧ p.need o.shared < 2 ^ 64 - 1 then .admitted (p.requiredSlots o.shared)
      else .rejected (p.requiredSlots o.shared)) ∧
    ((p.admission o.shared budget).isAdmitted = true → 1 ≤ p.parallelism → p.PlainNumbers o budget) := by
  refine ⟨requiredSlots_eq_min, admission_eq o.shared budget, fun hadmitted hone => ?_⟩
  rw [admission_eq] at hadmitted
  split_ifs at hadmitted with hneed
  · exact plainNumbers_of_need hone (Nat.lt_of_lt_of_le hneed.2 (by decide)) hneed.1
  · cases hadmitted

theorem largest_admitted_need_fits :
    let o : TrialOptions := {}
    let p : GridPoint := ⟨2 ^ 63, 2 ^ 63 - 2, 1⟩
    (p.admission false (2 ^ 64 - 1)).isAdmitted = true ∧ p.PlainNumbers o (2 ^ 64 - 1) ∧
      (GridPoint.admission ⟨2 ^ 63, 2 ^ 63 - 1, 1⟩ false (2 ^ 64 - 1)).isAdmitted = false := by
  intro o p
  have hadmitted : (p.admission false (2 ^ 64 - 1)).isAdmitted = true := by decide
  exact ⟨hadmitted, (admitted_points_fit_words p o (2 ^ 64 - 1)).2.2 hadmitted (by decide), by decide⟩

end GridPoint

end DecodeBench
