import DecodeBench.Proofs.CommandLine.Pieces
import DecodeBench.Proofs.Text.Quoting

/-! Lists of numbers. A text is a list exactly if each of its pieces between commas is a number with blanks
around it; if not, the first piece that is none is the one reported. -/

namespace DecodeBench.CommandLine

structure Entry where
  blanksBefore : List Char
  plus : Bool
  zeros : Nat
  number : Nat
  blanksAfter : List Char

namespace Entry

def sign (e : Entry) : List Char := if e.plus then ['+'] else []

def digits (e : Entry) : List Char := List.replicate e.zeros '0' ++ (toString e.number).toList

def text (e : Entry) : List Char := e.blanksBefore ++ (e.sign ++ e.digits) ++ e.blanksAfter

structure Allowed (e : Entry) : Prop where
  before : ∀ c ∈ e.blanksBefore, Text.isBlank c
  after : ∀ c ∈ e.blanksAfter, Text.isBlank c
  number : e.number < wordLimit

variable {e : Entry}

lemma isDecimal_digits (e : Entry) : IsDecimal e.digits e.number where
  ne_nil := by simp [digits]
  digits c hc := by
    rcases List.mem_append.1 hc with hc | hc
    · rw [List.eq_of_mem_replicate hc]
      decide
    · exact isDigit_of_mem_toString hc
  value := by
    rw [digits, Nat.ofDigitChars_append, Nat.ofDigitChars_replicate_zero, Nat.mul_zero]
    exact (isDecimal_toString e.number).value

lemma sign_or_isDigit {c : Char} (h : c ∈ e.sign ++ e.digits) : c = '+' ∨ c.isDigit := by
  rcases List.mem_append.1 h with h | h
  · rw [sign] at h
    split at h
    · exact .inl (List.mem_singleton.1 h)
    · cases h
  · exact .inr (e.isDecimal_digits.digits c h)

lemma no_blank_numeral : ∀ c ∈ e.sign ++ e.digits, Text.isBlank c = false := by
  intro c hc
  rcases sign_or_isDigit hc with rfl | hdigit
  · decide +kernel
  · exact Text.isBlank_of_isDigit hdigit

lemma Allowed.reads (h : e.Allowed) : Reads e.text e.number := by
  refine ⟨?_, h.number⟩
  rw [text, Text.trim_append_right h.after, Text.trim_append_left h.before, Text.trim_of_no_blank no_blank_numeral]
  refine ⟨e.sign, ?_, e.digits, rfl, e.isDecimal_digits⟩
  cases hplus : e.plus <;> simp [sign, hplus]

lemma Allowed.no_comma (h : e.Allowed) : ',' ∉ e.text := by
  have hblank {cs : List Char} (hcs : ∀ c ∈ cs, Text.isBlank c) : ',' ∉ cs := by
    intro hmem
    exact absurd (hcs _ hmem) (by decide +kernel)
  have hnumeral : ',' ∉ e.sign ++ e.digits := by
    intro hmem
    exact absurd (sign_or_isDigit hmem) (by decide)
  rw [text, List.mem_append, List.mem_append, not_or, not_or]
  exact ⟨⟨hblank h.before, hnumeral⟩, hblank h.after⟩

end Entry

lemma parseList_eq_ok_iff {s : String} {ns : List Nat} :
    parseList s = .ok ns ↔ List.Forall₂ Reads (s.toList.splitOn ',') ns := by
  rw [parseList, mapM_parsePiece_eq_ok_iff, pieces_eq_splitOn]

structure Offends (s : String) (before : List (List Char)) (piece : List Char) (fault : PieceFault) : Prop where
  place : ∃ after, s.toList.splitOn ',' = before ++ piece :: after
  before : ∀ p ∈ before, ∃ n, Reads p n
  unreadable : ∀ n, ¬Reads piece n
  reported : fault.piece = String.ofList piece
  named : fault.message = "invalid value " ++ Text.quoted (String.ofList piece) ++ ": " ++ fault.fault.message
  told : ∀ text, fault.message = "invalid value " ++ Text.quoted text ++ ": " ++ fault.fault.message →
    text = String.ofList piece
  verbatim : (∀ c ∈ piece, Text.Plain c) →
    fault.message = "invalid value \"" ++ String.ofList piece ++ "\": " ++ fault.fault.message

lemma exists_offending {s : String} {fault : PieceFault} (h : parseList s = .error fault) :
    ∃ before piece, Offends s before piece fault := by
  obtain ⟨before, piece, after, hpieces, hbefore, hpiece⟩ := exists_of_mapM_eq_error h
  have hreported : fault.piece = String.ofList piece := parsePiece_eq_error hpiece
  have hnamed : fault.message = "invalid value " ++ Text.quoted (String.ofList piece) ++ ": " ++ fault.fault.message := by
    rw [PieceFault.message, hreported]
  refine ⟨before, piece, ?_⟩
  constructor
  case place => exact ⟨after, by rw [← pieces_eq_splitOn, hpieces]⟩
  case before =>
    intro p hp
    obtain ⟨n, hn⟩ := hbefore p hp
    exact ⟨n, parsePiece_eq_ok_iff.1 hn⟩
  case unreadable =>
    intro n hn
    rw [parsePiece_eq_ok_iff.2 hn] at hpiece
    cases hpiece
  case reported => exact hreported
  case named => exact hnamed
  case told =>
    intro text htext
    rw [hnamed] at htext
    simp only [String.append_left_inj, String.append_right_inj] at htext
    exact (Text.quoted_inj htext).symm
  case verbatim =>
    intro hplain
    rw [hnamed, Text.quoted_of_plain hplain, ← String.toList_inj]
    simp

theorem lists_are_numbers_between_commas :
    (∀ s ns, parseList s = .ok ns ↔ List.Forall₂ Reads (s.toList.splitOn ',') ns) ∧
    (∀ s ns, parseList s = .ok ns → ns.length = s.toList.count ',' + 1) ∧
    (∀ s fault, parseList s = .error fault → ∃ before piece, Offends s before piece fault) ∧
    ∀ entries : List Entry, entries ≠ [] → (∀ e ∈ entries, e.Allowed) →
      parseList (String.ofList ([','].intercalate (entries.map Entry.text))) = .ok (entries.map Entry.number) := by
  refine ⟨fun s ns => parseList_eq_ok_iff, fun s ns h => ?_, fun s fault => exists_offending, fun entries hne h => ?_⟩
  · rw [← (parseList_eq_ok_iff.1 h).length_eq, ← pieces_eq_splitOn, length_pieces]
  · have hcomma : ∀ text ∈ entries.map Entry.text, ',' ∉ text := List.forall_mem_map.2 fun e he => (h e he).no_comma
    rw [parseList_eq_ok_iff, String.toList_ofList, List.splitOn_intercalate ',' hcomma (by simpa using hne),
      List.forall₂_map_left_iff, List.forall₂_map_right_iff, List.forall₂_same]
    exact fun e he => (h e he).reads

theorem seven_is_read_behind_blanks_sign_and_zeros :
    let entries := [⟨[' ', '\u00a0'], true, 2, 7, ['\n']⟩, ⟨[], false, 0, 18446744073709551615, [' ']⟩]
    (entries ≠ [] ∧ ∀ e ∈ entries, e.Allowed) ∧
    parseList (String.ofList ([','].intercalate (entries.map Entry.text))) = .ok [7, 18446744073709551615] ∧
    ∃ before piece, parseList "1, 2x,3" = .error ⟨" 2x", .invalidDigit⟩ ∧
      Offends "1, 2x,3" before piece ⟨" 2x", .invalidDigit⟩ := by
  intro entries
  obtain ⟨hspace, hwide, hline⟩ : Text.isBlank ' ' ∧ Text.isBlank '\u00a0' ∧ Text.isBlank '\n' := by decide +kernel
  have hfirst : (⟨[' ', '\u00a0'], true, 2, 7, ['\n']⟩ : Entry).Allowed :=
    ⟨by simp [hspace, hwide], by simp [hline], by decide⟩
  have hlast : (⟨[], false, 0, 18446744073709551615, [' ']⟩ : Entry).Allowed := ⟨nofun, by simp [hspace], by decide⟩
  have hallowed : ∀ e ∈ entries, e.Allowed := List.forall_mem_cons.2 ⟨hfirst, List.forall_mem_singleton.2 hlast⟩
  have hrefused : parseList "1, 2x,3" = .error ⟨" 2x", .invalidDigit⟩ := by decide +kernel
  obtain ⟨before, piece, hoffends⟩ := lists_are_numbers_between_commas.2.2.1 _ _ hrefused
  refine ⟨⟨List.cons_ne_nil _ _, hallowed⟩, ?_, before, piece, hrefused, hoffends⟩
  exact lists_are_numbers_between_commas.2.2.2 entries (List.cons_ne_nil _ _) hallowed

end DecodeBench.CommandLine
