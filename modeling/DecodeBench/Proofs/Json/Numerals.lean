import DecodeBench.Json.FloatNumeral
import DecodeBench.Proofs.Json.Lexing

/-! The numerals that integers and doubles are written as are numerals that can be read. -/

namespace DecodeBench

namespace Decimal

lemma digits_ne_nil (n : Nat) : digits n ≠ [] := by
  rw [digits]
  split <;> simp

lemma eq_zero_of_digits {n : Nat} {ds : Digits} (h : digits n = 0 :: ds) : n = 0 := by
  fun_induction digits n generalizing ds with
  | case1 n hlt => simpa using congrArg List.head? h
  | case2 n hge ih =>
    obtain ⟨d, rest, hdigits⟩ := List.exists_cons_of_ne_nil (digits_ne_nil (n / 10))
    rw [hdigits, List.cons_append, List.cons.injEq] at h
    rw [h.1] at hdigits
    have hzero := ih hdigits
    omega

namespace Shortest

lemma powerRatio_pos {base : Nat} (h : 0 < base) (e : Int) : 0 < (powerRatio base e).1 ∧ 0 < (powerRatio base e).2 :=
  ⟨Nat.pow_pos h, Nat.pow_pos h⟩

/-- Of the two neighbours of the center only the one below can be zero, and zero is not in the interval. -/
lemma Interval.count_pos_of_onGrid? {i : Interval} {power : Int} {s : Scaled} (hlow : 0 < i.low)
    (h : i.onGrid? power = some s) : 0 < s.count := by
  have htwo := (powerRatio_pos (by decide : 0 < 2) i.exponent).1
  have hten := (powerRatio_pos (by decide : 0 < 10) power).2
  rw [Interval.onGrid?] at h
  generalize powerRatio 2 i.exponent = two at h htwo
  generalize powerRatio 10 power = ten at h hten
  obtain ⟨a₂, b₂⟩ := two
  obtain ⟨a₁₀, b₁₀⟩ := ten
  have hend : 0 < i.low * (a₂ * b₁₀) := Nat.mul_pos hlow (Nat.mul_pos htwo hten)
  simp only at h
  generalize i.center * (a₂ * b₁₀) / (b₂ * a₁₀) = below at h
  rcases Nat.eq_zero_or_pos below with rfl | hbelow
  · have hzero : (if i.closed = true then
        decide (i.low * (a₂ * b₁₀) ≤ 0 * (b₂ * a₁₀)) && decide (0 * (b₂ * a₁₀) ≤ i.high * (a₂ * b₁₀))
      else decide (i.low * (a₂ * b₁₀) < 0 * (b₂ * a₁₀)) && decide (0 * (b₂ * a₁₀) < i.high * (a₂ * b₁₀))) = false := by
      rw [Nat.zero_mul, decide_eq_false (Nat.not_le.2 hend), decide_eq_false (Nat.not_lt_zero _)]
      split <;> rfl
    rw [hzero] at h
    split at h
    case h_3 =>
      cases h
      exact Nat.succ_pos _
    all_goals contradiction
  · split at h <;> cases h
    · simp only
      split <;> omega
    · exact hbelow
    · exact Nat.succ_pos _

lemma ofParts_power {m : Nat} {e : Int} (hm : m ≠ 0) (h : (ofParts m e).count = 0) : (ofParts m e).power = 0 := by
  have hlow : 0 < (interval m e).low := by
    simp only [interval]
    split <;> omega
  rw [ofParts] at h ⊢
  cases hfound : (List.range gridCount).findSome? fun (k : Nat) =>
      (interval m e).onGrid? ((interval m e).topPower - Int.ofNat k) with
  | none => rfl
  | some s =>
    obtain ⟨k, -, hgrid⟩ := List.exists_of_findSome?_eq_some hfound
    have hpos := Interval.count_pos_of_onGrid? hlow hgrid
    rw [hfound, Option.getD_some] at h
    omega

end Shortest

end Decimal

namespace Json

open Decimal (Digits digits)

namespace Numeral

lemma wellFormed_of_digits (negative : Bool) (n : Nat) : WellFormed { negative, whole := digits n } where
  whole_ne_nil := Decimal.digits_ne_nil n
  no_leading_zero d ds h := by
    have hzero := Decimal.eq_zero_of_digits h
    rw [hzero, Decimal.digits] at h
    simp at h
  exponent_ne_nil _ _ h := nomatch h

lemma wellFormed_ofNat (n : Nat) : (ofNat n).WellFormed := wellFormed_of_digits false n

lemma wellFormed_ofInt (i : Int) : (ofInt i).WellFormed := wellFormed_of_digits _ _

lemma wellFormed_layout (l : FloatLayout) (negative : Bool) {ds : Digits} {power : Int} (hne : ds ≠ [])
    (hzero : ∀ rest, ds = 0 :: rest → rest = [] ∧ power = 0) : (l.numeral negative ds power).WellFormed := by
  obtain ⟨d, rest, rfl⟩ := List.exists_cons_of_ne_nil hne
  rw [FloatLayout.numeral]
  split_ifs with hrange hsmall
  · exact ⟨by simp [Decimal.zeros], by simp [Decimal.zeros], nofun⟩
  · refine ⟨by simp, fun d' ds' h => ?_, nofun⟩
    simp only [List.take_succ_cons, List.cons_append, List.cons.injEq] at h
    obtain ⟨rfl, rfl⟩ := hzero rest (h.1 ▸ rfl)
    simp [Decimal.zeros] at h
  · refine ⟨by simp, by simp, fun negative ds h => ?_⟩
    cases h
    exact Decimal.digits_ne_nil _

lemma wellFormed_ofFloat? {x : Float} {n : Numeral} (h : ofFloat? x = some n) : n.WellFormed := by
  rw [ofFloat?] at h
  split at h
  case h_1 =>
    cases h
    apply wellFormed_layout
    · simp [Decimal.zeros]
    · simp [Decimal.zeros]
  case h_2 negative m e hm _ =>
    cases h
    apply wellFormed_layout _ _ (Decimal.digits_ne_nil _)
    intro rest hrest
    have hcount := Decimal.eq_zero_of_digits hrest
    have hpower := Decimal.Shortest.ofParts_power (e := e) (m := m) (fun h => hm h) hcount
    have hlast : digits 0 = [0] := by
      rw [digits]
      rfl
    simp only [hcount, hlast, List.cons.injEq, true_and] at hrest
    refine ⟨hrest.symm, ?_⟩
    simp [hcount, hlast, hpower]
  case h_3 => cases h

/-! ### Integers -/

lemma number?_ofNat {n : Nat} (h : n < wordLimit) : (ofNat n).number? = some (.natural n) := by
  simp [number?, ofNat, Decimal.value_digits, h]

lemma number?_ofNat_of_le {n : Nat} (h : wordLimit ≤ n) :
    (ofNat n).number? = none ∨ ∃ x, (ofNat n).number? = some (.real x) := by
  have hreal : (ofNat n).number? = (ofNat n).real? := by
    simp [number?, ofNat, Decimal.value_digits, Nat.not_lt.2 h]
  rw [hreal]
  unfold real?
  split
  cases scale? _ _ with
  | none => exact .inl rfl
  | some x => exact .inr ⟨_, rfl⟩

lemma number?_ofInt_of_neg {i : Int} (h : i < 0) (hlow : -(Nat.pow 2 63 : Nat) ≤ i) :
    (ofInt i).number? = some (.negative i) := by
  have hsize : 0 < i.natAbs ∧ i.natAbs ≤ Nat.pow 2 63 := by omega
  have hback : -(i.natAbs : Int) = i := by omega
  simp only [number?, ofInt, Decimal.value_digits, h, decide_true, and_self, if_true, if_pos hsize, hback]

lemma ofInt_natCast (n : Nat) : ofInt n = ofNat n := by
  simp [ofInt, ofNat]

end Numeral

end Json

end DecodeBench
