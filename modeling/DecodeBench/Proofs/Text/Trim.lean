import DecodeBench.Text.Blank
import Mathlib.Data.List.TakeWhile
import Mathlib.Tactic.Common

/-! Trimmed text: blanks around a text do not count, and a text without blanks stays as it is. -/

namespace DecodeBench.Text

variable {cs : List Char}

lemma isBlank_space : isBlank ' ' = true := by
  decide +kernel

lemma isBlank_of_isDigit {c : Char} (h : c.isDigit) : isBlank c = false := by
  obtain ⟨hlow, hhigh⟩ := Char.isDigit_iff_toNat.1 h
  simp only [Char.reduceToNat] at hlow hhigh
  simp [isBlank, isWithin, blankRanges]
  omega

lemma trim_append_left {blanks : List Char} (h : ∀ c ∈ blanks, isBlank c) : trim (blanks ++ cs) = trim cs := by
  rw [trim, List.dropWhile_append_of_pos h, trim]

lemma trim_append_right {blanks : List Char} (h : ∀ c ∈ blanks, isBlank c) : trim (cs ++ blanks) = trim cs := by
  have hreverse : ∀ c ∈ blanks.reverse, isBlank c := fun c hc => h c (List.mem_reverse.1 hc)
  rw [trim, List.dropWhile_append]
  split
  case isTrue hall =>
    rw [List.isEmpty_iff] at hall
    rw [List.dropWhile_eq_nil_iff.2 h, trim, hall]
  case isFalse =>
    rw [List.reverse_append, List.dropWhile_append_of_pos hreverse, trim]

lemma trim_of_no_blank (h : ∀ c ∈ cs, isBlank c = false) : trim cs = cs := by
  have hkept {ds : List Char} (hds : ∀ c ∈ ds, isBlank c = false) : ds.dropWhile isBlank = ds := by
    rw [List.dropWhile_eq_self_iff]
    intro hpos
    rw [hds _ (List.getElem_mem hpos)]
    exact Bool.false_ne_true
  rw [trim, hkept h, hkept fun c hc => h c (List.mem_reverse.1 hc), List.reverse_reverse]

end DecodeBench.Text
