import DecodeBench.CommandLine.Number
import DecodeBench.Proofs.Text.Trim
import Mathlib.Data.List.Forall2

/-! The pieces of a text between its commas, and the numbers that are read from them. -/

namespace DecodeBench.CommandLine

lemma length_pieces (cs : List Char) : (pieces cs).length = cs.count ',' + 1 := by
  induction cs with
  | nil => rfl
  | cons c cs ih =>
    rw [pieces]
    split_ifs with hc
    · rw [List.length_cons, ih, hc, List.count_cons_self]
    · rw [List.count_cons_of_ne hc, ← ih]
      split <;> simp_all

lemma pieces_ne_nil (cs : List Char) : pieces cs ≠ [] :=
  List.length_pos_iff.1 (by rw [length_pieces]; exact Nat.succ_pos _)

lemma pieces_cons_of_ne {c : Char} (hc : c ≠ ',') (cs : List Char) :
    pieces (c :: cs) = (pieces cs).modifyHead (List.cons c) := by
  obtain ⟨p, ps, hpieces⟩ := List.exists_cons_of_ne_nil (pieces_ne_nil cs)
  rw [pieces, if_neg hc, hpieces]
  rfl

lemma pieces_eq_splitOn (cs : List Char) : pieces cs = cs.splitOn ',' := by
  induction cs with
  | nil => rfl
  | cons c cs ih =>
    rw [List.splitOn_cons_eq_if_modifyHead, ← ih]
    split
    case isTrue hc => rw [pieces, if_pos (beq_iff_eq.1 hc)]
    case isFalse hc => exact pieces_cons_of_ne (fun h => hc (beq_iff_eq.2 h)) cs

lemma pieces_append_comma {xs : List Char} (h : ',' ∉ xs) (ys : List Char) :
    pieces (xs ++ ',' :: ys) = xs :: pieces ys := by
  rw [pieces_eq_splitOn, List.splitOn_append_cons_self_of_not_mem h, pieces_eq_splitOn]

lemma pieces_of_no_comma {xs : List Char} (h : ',' ∉ xs) : pieces xs = [xs] := by
  rw [pieces_eq_splitOn, List.splitOn_eq_singleton h]

lemma map_trim_pieces_cons_blank {c : Char} (hblank : Text.isBlank c) (hc : c ≠ ',') (cs : List Char) :
    (pieces (c :: cs)).map Text.trim = (pieces cs).map Text.trim := by
  obtain ⟨p, ps, hpieces⟩ := List.exists_cons_of_ne_nil (pieces_ne_nil cs)
  have hblanks : ∀ d ∈ [c], Text.isBlank d := by simpa using hblank
  have htrim : Text.trim (c :: p) = Text.trim p := Text.trim_append_left hblanks
  rw [pieces_cons_of_ne hc, hpieces]
  simp [htrim]

/-! ### Numbers -/

lemma le_ofDigitChars (cs : List Char) (n : Nat) : n ≤ Nat.ofDigitChars 10 cs n := by
  induction cs generalizing n with
  | nil => simp
  | cons c cs ih =>
    rw [Nat.ofDigitChars_cons]
    exact Nat.le_trans (by omega) (ih _)

lemma continueNumber_of_isDigit {limit : Nat} {overflow : NumberFault} {cs : List Char} (h : ∀ c ∈ cs, c.isDigit)
    {n : Nat} (hlimit : Nat.ofDigitChars 10 cs n < limit) :
    continueNumber limit overflow n cs = .ok (Nat.ofDigitChars 10 cs n) := by
  induction cs generalizing n with
  | nil => simp [continueNumber]
  | cons c cs ih =>
    have hc : digitValue? c = some (c.toNat - '0'.toNat) := if_pos (h c (List.mem_cons_self ..))
    rw [Nat.ofDigitChars_cons] at hlimit ⊢
    have hsofar := Nat.lt_of_le_of_lt (le_ofDigitChars cs _) hlimit
    rw [continueNumber, hc]
    exact (if_pos hsofar).trans (ih (fun d hd => h d (List.mem_cons_of_mem _ hd)) hlimit)

lemma digitValue?_eq_some {c : Char} {d : Nat} (h : digitValue? c = some d) : c.isDigit ∧ d = c.toNat - '0'.toNat := by
  rw [digitValue?] at h
  split at h
  case isTrue hc => exact ⟨hc, (Option.some.inj h).symm⟩
  case isFalse => cases h

structure IsDecimal (ds : List Char) (n : Nat) : Prop where
  ne_nil : ds ≠ []
  digits : ∀ c ∈ ds, c.isDigit
  value : Nat.ofDigitChars 10 ds 0 = n

def Spells (cs : List Char) (n : Nat) : Prop := ∃ sign ∈ [[], ['+']], ∃ ds, cs = sign ++ ds ∧ IsDecimal ds n

def Reads (piece : List Char) (n : Nat) : Prop := Spells (Text.trim piece) n ∧ n < wordLimit

section

variable {limit n m : Nat} {overflow : NumberFault} {cs : List Char}

lemma continueNumber_eq_ok_iff (hn : n < limit) : continueNumber limit overflow n cs = .ok m ↔
    (∀ c ∈ cs, c.isDigit) ∧ Nat.ofDigitChars 10 cs n = m ∧ m < limit := by
  refine ⟨fun h => ?_, fun ⟨hdigits, hvalue, hm⟩ => ?_⟩
  · induction cs generalizing n with
    | nil =>
      cases h
      exact ⟨nofun, Nat.ofDigitChars_nil, hn⟩
    | cons c cs ih =>
      rw [continueNumber] at h
      split at h
      case h_1 => cases h
      case h_2 d hd =>
        obtain ⟨hc, rfl⟩ := digitValue?_eq_some hd
        split at h
        case isFalse => cases h
        case isTrue hlt =>
          obtain ⟨hcs, hvalue, hm⟩ := ih hlt h
          exact ⟨List.forall_mem_cons.2 ⟨hc, hcs⟩, by rwa [Nat.ofDigitChars_cons], hm⟩
  · rw [continueNumber_of_isDigit hdigits (hvalue ▸ hm), hvalue]

lemma digitsOnly_eq_ok_iff (hlimit : 0 < limit) :
    digitsOnly limit overflow cs = .ok n ↔ IsDecimal cs n ∧ n < limit := by
  cases cs with
  | nil => exact ⟨nofun, fun h => absurd rfl h.1.ne_nil⟩
  | cons c cs =>
    rw [digitsOnly, List.isEmpty_cons, if_neg Bool.false_ne_true, continueNumber_eq_ok_iff hlimit]
    exact ⟨fun ⟨hdigits, hvalue, hn⟩ => ⟨⟨List.cons_ne_nil c cs, hdigits, hvalue⟩, hn⟩,
      fun ⟨h, hn⟩ => ⟨h.digits, h.value, hn⟩⟩

lemma spells_plus : Spells ('+' :: cs) n ↔ IsDecimal cs n := by
  have hsign : ¬IsDecimal ('+' :: cs) n := by
    intro h
    exact absurd (h.digits '+' (List.mem_cons_self ..)) (by decide)
  simp [Spells, hsign]

lemma spells_of_no_plus (h : ∀ ds, cs ≠ '+' :: ds) : Spells cs n ↔ IsDecimal cs n := by
  simp [Spells, h]

lemma parseNatural_eq_ok_iff (hlimit : 0 < limit) : parseNatural limit cs = .ok n ↔ Spells cs n ∧ n < limit := by
  rw [parseNatural.eq_def]
  split
  case h_1 =>
    have hempty : ¬Spells [] n := fun h => absurd rfl ((spells_of_no_plus (by simp)).1 h).ne_nil
    exact ⟨nofun, fun h => absurd h.1 hempty⟩
  case h_2 ds => rw [digitsOnly_eq_ok_iff hlimit, spells_plus]
  case h_3 hplus => rw [digitsOnly_eq_ok_iff hlimit, spells_of_no_plus fun ds h => hplus ds h]

lemma parsePiece_eq_ok_iff : parsePiece cs = .ok n ↔ Reads cs n := by
  rw [Reads, ← parseNatural_eq_ok_iff (by decide), parsePiece]
  split <;> simp_all

lemma parsePiece_eq_error {fault : PieceFault} (h : parsePiece cs = .error fault) : fault.piece = String.ofList cs := by
  rw [parsePiece] at h
  split at h <;> cases h
  rfl

end

lemma isDigit_of_mem_toString {n : Nat} {c : Char} (h : c ∈ (toString n).toList) : c.isDigit := by
  rw [Nat.toString_eq_ofList_toDigits, String.toList_ofList] at h
  exact Nat.isDigit_of_mem_toDigits (by decide) (by decide) h

lemma isDecimal_toString (n : Nat) : IsDecimal (toString n).toList n where
  ne_nil := by simp
  digits _ := isDigit_of_mem_toString
  value := by simp

lemma IsDecimal.spells {ds : List Char} {n : Nat} (h : IsDecimal ds n) : Spells ds n :=
  ⟨[], List.mem_cons_self .., ds, rfl, h⟩

/-! ### Pieces in turn -/

section MapM

variable {ε α β : Type} {f : α → Except ε β} {xs : List α}

lemma mapM_eq_ok_iff {ys : List β} : xs.mapM f = .ok ys ↔ List.Forall₂ (fun x y => f x = .ok y) xs ys := by
  induction xs generalizing ys with
  | nil => simp [pure, Except.pure, eq_comm]
  | cons x xs ih =>
    rw [List.mapM_cons, List.forall₂_cons_left_iff]
    cases hx : f x with
    | error e => simp [bind, Except.bind]
    | ok y =>
      cases hxs : xs.mapM f with
      | error e => simp [bind, Except.bind, ← ih, hxs]
      | ok ys' => simp [bind, Except.bind, pure, Except.pure, ← ih, hxs, eq_comm]

lemma exists_of_mapM_eq_error {e : ε} (h : xs.mapM f = .error e) :
    ∃ before x after, xs = before ++ x :: after ∧ (∀ b ∈ before, ∃ y, f b = .ok y) ∧ f x = .error e := by
  induction xs with
  | nil => cases h
  | cons x xs ih =>
    rw [List.mapM_cons] at h
    cases hx : f x with
    | error e' =>
      rw [hx] at h
      cases h
      exact ⟨[], x, xs, rfl, nofun, hx⟩
    | ok y =>
      cases hxs : xs.mapM f with
      | ok ys => simp [hx, hxs, bind, Except.bind, pure, Except.pure] at h
      | error e' =>
        have he : e' = e := by simpa [hx, hxs, bind, Except.bind] using h
        obtain ⟨before, z, after, rfl, hbefore, hz⟩ := ih (he ▸ hxs)
        exact ⟨x :: before, z, after, rfl, List.forall_mem_cons.2 ⟨⟨y, hx⟩, hbefore⟩, hz⟩

end MapM

lemma mapM_parsePiece_eq_ok_iff {ps : List (List Char)} {ns : List Nat} :
    ps.mapM parsePiece = .ok ns ↔ List.Forall₂ Reads ps ns := by
  simp only [mapM_eq_ok_iff, parsePiece_eq_ok_iff]

lemma mapM_parsePiece {ps : List (List Char)} {ns : List Nat}
    (htrim : ps.map Text.trim = ns.map fun n => (toString n).toList) (h : ∀ n ∈ ns, n < wordLimit) :
    ps.mapM parsePiece = .ok ns := by
  rw [mapM_parsePiece_eq_ok_iff]
  induction ns generalizing ps with
  | nil => simp_all
  | cons n ns ih =>
    obtain ⟨hn, hns⟩ := List.forall_mem_cons.1 h
    cases ps with
    | nil => simp at htrim
    | cons p ps =>
      rw [List.map_cons, List.map_cons, List.cons.injEq] at htrim
      exact .cons ⟨htrim.1 ▸ (isDecimal_toString n).spells, hn⟩ (ih htrim.2 hns)

end DecodeBench.CommandLine
