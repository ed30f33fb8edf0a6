import DecodeBench.Text.Quoted
import Mathlib.Data.List.Basic
import Mathlib.Data.List.TakeWhile
import Mathlib.Tactic.Common

/-! Quoted text tells what it is the quotation of: each character is read back from the way it is shown,
whatever follows, and text with nothing to escape stands between the quotes as it is. -/

namespace DecodeBench.Text

/-! ### Code points -/

def hexDigit (c : Char) : Nat := if c.isDigit then c.toNat - 48 else c.toNat - 87

def hexValue (ds : List Char) : Nat := ds.foldl (fun n c => 16 * n + hexDigit c) 0

lemma hexDigit_digitChar : ∀ d < 16, hexDigit (Nat.digitChar d) = d := by decide

lemma digitChar_ne_brace : ∀ d < 16, Nat.digitChar d ≠ '\x7d' := by decide

lemma hexValue_toDigits (n : Nat) : hexValue (Nat.toDigits 16 n) = n := by
  induction n using Nat.strongRecOn with
  | ind n ih =>
    rw [Nat.toDigits_eq_if (by decide)]
    split
    case isTrue hn => exact (Nat.zero_add _).trans (hexDigit_digitChar n hn)
    case isFalse hn =>
      rw [hexValue, List.foldl_append, ← hexValue, ih (n / 16) (by omega)]
      change 16 * (n / 16) + hexDigit (Nat.digitChar (n % 16)) = n
      rw [hexDigit_digitChar _ (Nat.mod_lt n (by decide)), Nat.div_add_mod]

lemma brace_not_mem_toDigits (n : Nat) : '\x7d' ∉ Nat.toDigits 16 n := by
  induction n using Nat.strongRecOn with
  | ind n ih =>
    rw [Nat.toDigits_eq_if (by decide)]
    split
    case isTrue hn => exact fun h => digitChar_ne_brace n hn (List.mem_singleton.1 h).symm
    case isFalse hn =>
      rw [List.mem_append, List.mem_singleton, not_or]
      exact ⟨ih (n / 16) (by omega), (digitChar_ne_brace _ (Nat.mod_lt n (by decide))).symm⟩

/-! ### One character -/

/-- What follows a backslash: a letter for a control, a code point in braces, or the character itself. -/
def readEscape? : List Char → Option (Char × List Char)
  | [] => none
  | c :: cs =>
    if c = 'n' then some ('\n', cs)
    else if c = 'r' then some ('\r', cs)
    else if c = 't' then some ('\t', cs)
    else if c = '0' then some ('\x00', cs)
    else if c = 'u' then
      let inner := cs.drop 1
      some (Char.ofNat (hexValue (inner.takeWhile (· ≠ '\x7d'))), (inner.dropWhile (· ≠ '\x7d')).drop 1)
    else some (c, cs)

def readShown? : List Char → Option (Char × List Char)
  | [] => none
  | c :: cs => if c = '\\' then readEscape? cs else some (c, cs)

lemma readShown?_shown (c : Char) (rest : List Char) : readShown? (shown c ++ rest) = some (c, rest) := by
  rw [shown]
  split_ifs with hescaped hline hreturn htab hzero hhidden
  · obtain rfl | rfl := hescaped <;> rfl
  · rw [hline]; rfl
  · rw [hreturn]; rfl
  · rw [htab]; rfl
  · have hc : c = '\x00' := Char.ext (UInt32.toNat_inj.1 hzero)
    rw [hc]; rfl
  · have hdigits : ∀ d ∈ Nat.toDigits 16 c.toNat, decide (d ≠ '\x7d') = true := fun d hd =>
      decide_eq_true fun h => brace_not_mem_toDigits _ (h ▸ hd)
    change some (Char.ofNat (hexValue ((Nat.toDigits 16 c.toNat ++ ['\x7d'] ++ rest).takeWhile _)),
      ((Nat.toDigits 16 c.toNat ++ ['\x7d'] ++ rest).dropWhile _).drop 1) = _
    rw [List.append_assoc, List.takeWhile_append_of_pos hdigits, List.dropWhile_append_of_pos hdigits]
    simp [hexValue_toDigits]
  · exact if_neg fun h => hescaped (.inr h)

lemma shown_ne_nil (c : Char) : shown c ≠ [] := by
  intro h
  have hread := readShown?_shown c []
  rw [h] at hread
  cases hread

lemma shown_append_inj {c d : Char} {cs ds : List Char} (h : shown c ++ cs = shown d ++ ds) : c = d ∧ cs = ds := by
  have hread := readShown?_shown c cs
  rw [h, readShown?_shown] at hread
  cases hread
  exact ⟨rfl, rfl⟩

/-! ### Text -/

lemma flatMap_shown_inj {cs ds : List Char} (h : cs.flatMap shown = ds.flatMap shown) : cs = ds := by
  induction cs generalizing ds with
  | nil =>
    cases ds with
    | nil => rfl
    | cons d ds => exact absurd (List.append_eq_nil_iff.1 h.symm).1 (shown_ne_nil d)
  | cons c cs ih =>
    cases ds with
    | nil => exact absurd (List.append_eq_nil_iff.1 h).1 (shown_ne_nil c)
    | cons d ds =>
      obtain ⟨rfl, hrest⟩ := shown_append_inj h
      rw [ih hrest]

lemma quoted_inj {s t : String} (h : quoted s = quoted t) : s = t := by
  have hlist := String.ofList_injective h
  rw [List.append_left_inj, List.cons_inj_right] at hlist
  exact String.toList_inj.1 (flatMap_shown_inj hlist)

def Plain (c : Char) : Prop := c ≠ '"' ∧ c ≠ '\\' ∧ isHidden c = false

lemma shown_of_plain {c : Char} (h : Plain c) : shown c = [c] := by
  obtain ⟨hquote, hbackslash, hshown⟩ := h
  have hidden : ∀ d : Char, isHidden d = true → c ≠ d := by
    rintro d hd rfl
    exact absurd (hd.symm.trans hshown) (by decide)
  have hzero : c.toNat ≠ 0 := fun h =>
    hidden '\x00' (by decide +kernel) (Char.ext (UInt32.toNat_inj.1 h))
  rw [shown, if_neg (not_or.2 ⟨hquote, hbackslash⟩), if_neg (hidden '\n' (by decide +kernel)),
    if_neg (hidden '\r' (by decide +kernel)), if_neg (hidden '\t' (by decide +kernel)), if_neg hzero,
    if_neg (Bool.not_eq_true _ ▸ hshown)]

lemma quoted_of_plain {cs : List Char} (h : ∀ c ∈ cs, Plain c) :
    quoted (String.ofList cs) = "\"" ++ String.ofList cs ++ "\"" := by
  have hshown : cs.flatMap shown = cs := by
    rw [List.flatMap_congr fun c hc => shown_of_plain (h c hc), List.flatMap_singleton']
  rw [quoted, String.toList_ofList, hshown, ← String.toList_inj]
  simp

end DecodeBench.Text
