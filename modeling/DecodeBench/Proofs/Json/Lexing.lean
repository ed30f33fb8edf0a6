import DecodeBench.Json.Token
import Mathlib.Data.List.Chain
import Mathlib.Tactic.Common

/-! Tokens written one after another, with blanks between them or without, are cut at the same places
again. A numeral goes on for as long as it can, so what follows one must not look like more of it. -/

namespace DecodeBench.Json

open Decimal (Digits)

/-! ### Numerals -/

namespace Numeral

structure WellFormed (n : Numeral) : Prop where
  whole_ne_nil : n.whole ≠ []
  no_leading_zero : ∀ d ds, n.whole ≠ 0 :: d :: ds
  exponent_ne_nil : ∀ negative ds, n.exponent = some (negative, ds) → ds ≠ []

def continues (b : UInt8) : Prop := (digit? b).isSome ∨ b = byteOf '.' ∨ b = byteOf 'e' ∨ b = byteOf 'E'

instance (b : UInt8) : Decidable (continues b) :=
  inferInstanceAs (Decidable ((digit? b).isSome ∨ b = byteOf '.' ∨ b = byteOf 'e' ∨ b = byteOf 'E'))

def StopsDigits : List UInt8 → Prop
  | [] => True
  | b :: _ => digit? b = none

def Stops : List UInt8 → Prop
  | [] => True
  | b :: _ => ¬continues b

lemma digit?_byte (d : Fin 10) : digit? (48 + d.val.toUInt8) = some d := by
  revert d
  decide

lemma spanDigits_append (ds : Digits) {rest : List UInt8} (h : StopsDigits rest) :
    spanDigits (bytesOf ds ++ rest) = (ds, rest) := by
  induction ds with
  | nil =>
    cases rest with
    | nil => rfl
    | cons b rest =>
      have hb : digit? b = none := h
      simp [bytesOf, spanDigits, hb]
  | cons d ds ih =>
    rw [bytesOf, List.map_cons, List.cons_append, spanDigits, digit?_byte]
    simp only [bytesOf] at ih
    simp [ih]

def fractionBytes (fraction : Digits) : List UInt8 :=
  if fraction.isEmpty then [] else byteOf '.' :: bytesOf fraction

def exponentBytes : Option (Bool × Digits) → List UInt8
  | none => []
  | some (negative, ds) => byteOf 'e' :: byteOf (if negative then '-' else '+') :: bytesOf ds

lemma bytes_eq (n : Numeral) : n.bytes =
    (if n.negative then [byteOf '-'] else []) ++
      (bytesOf n.whole ++ (fractionBytes n.fraction ++ exponentBytes n.exponent)) := by
  simp only [bytes, List.append_assoc]
  rfl

lemma Stops.digits {rest : List UInt8} (h : Stops rest) : StopsDigits rest := by
  cases rest with
  | nil => trivial
  | cons b rest => exact Option.not_isSome_iff_eq_none.1 (not_or.1 h).1

def exponentSigns : Bool → List (List UInt8)
  | true => [[byteOf '-']]
  | false => [[], [byteOf '+']]

inductive ExponentText : Option (Bool × Digits) → List UInt8 → Prop
  | absent : ExponentText none []
  | present {negative : Bool} {ds : Digits} {letter : UInt8} {sign : List UInt8}
      (hletter : letter = byteOf 'e' ∨ letter = byteOf 'E') (hsign : sign ∈ exponentSigns negative) :
      ExponentText (some (negative, ds)) (letter :: (sign ++ bytesOf ds))

lemma exponentText_exponentBytes : ∀ exponent, ExponentText exponent (exponentBytes exponent)
  | none => .absent
  | some (true, _) => .present (.inl rfl) (by simp [exponentSigns] : [byteOf '-'] ∈ exponentSigns true)
  | some (false, _) => .present (.inl rfl) (by simp [exponentSigns] : [byteOf '+'] ∈ exponentSigns false)

lemma scanSign_digit (d : Fin 10) (bs : List UInt8) :
    scanSign ((48 + d.val.toUInt8) :: bs) = (false, (48 + d.val.toUInt8) :: bs) := by
  have hother : (48 + d.val.toUInt8 : UInt8) ≠ byteOf '-' ∧ (48 + d.val.toUInt8 : UInt8) ≠ byteOf '+' := by
    revert d
    decide
  rw [scanSign, if_neg hother.1, if_neg hother.2]

lemma scanSign_append {negative : Bool} {sign : List UInt8} (hsign : sign ∈ exponentSigns negative) {ds : Digits}
    (hne : ds ≠ []) (rest : List UInt8) :
    scanSign (sign ++ (bytesOf ds ++ rest)) = (negative, bytesOf ds ++ rest) := by
  obtain ⟨d, ds, rfl⟩ := List.exists_cons_of_ne_nil hne
  cases negative with
  | true =>
    cases List.mem_singleton.1 hsign
    rfl
  | false =>
    rcases List.mem_cons.1 hsign with rfl | hsign
    · exact scanSign_digit d _
    · cases List.mem_singleton.1 hsign
      rfl

lemma scanExponent?_append {exponent : Option (Bool × Digits)} {text : List UInt8} (h : ExponentText exponent text)
    (hne : ∀ negative ds, exponent = some (negative, ds) → ds ≠ []) {rest : List UInt8} (hrest : Stops rest) :
    scanExponent? (text ++ rest) = some (exponent, rest) := by
  cases h with
  | absent =>
    cases rest with
    | nil => rfl
    | cons b rest =>
      have hb := (not_or.1 (not_or.1 hrest).2).2
      exact if_neg hb
  | @present negative ds letter sign hletter hsign =>
    have hds := hne negative ds rfl
    have hspan := spanDigits_append ds hrest.digits
    rw [List.cons_append, List.append_assoc, scanExponent?, if_pos hletter, scanSign_append hsign hds]
    simp only [hspan]

lemma ExponentText.stopsDigits {exponent : Option (Bool × Digits)} {text : List UInt8} (h : ExponentText exponent text)
    {rest : List UInt8} (hrest : Stops rest) : StopsDigits (text ++ rest) := by
  cases h with
  | absent => exact hrest.digits
  | present hletter => rcases hletter with rfl | rfl <;> rfl

lemma scanFraction?_append (fraction : Digits) {exponent : Option (Bool × Digits)} {text : List UInt8}
    (h : ExponentText exponent text) {rest : List UInt8} (hrest : Stops rest) :
    scanFraction? (fractionBytes fraction ++ (text ++ rest)) = some (fraction, text ++ rest) := by
  have hspan := spanDigits_append fraction (h.stopsDigits hrest)
  cases fraction with
  | nil =>
    cases h with
    | absent =>
      cases rest with
      | nil => rfl
      | cons b rest =>
        have hb := (not_or.1 (not_or.1 hrest).2).1
        exact if_neg hb
    | present hletter => rcases hletter with rfl | rfl <;> rfl
  | cons d ds =>
    rw [fractionBytes, List.isEmpty_cons, if_neg Bool.false_ne_true, List.cons_append, scanFraction?, if_pos rfl, hspan]

lemma stopsDigits_fractionBytes {fraction : Digits} {rest : List UInt8} (hrest : StopsDigits rest) :
    StopsDigits (fractionBytes fraction ++ rest) := by
  cases fraction with
  | nil => exact hrest
  | cons d ds => exact (rfl : digit? (byteOf '.') = none)

lemma scanWhole?_append {whole : Digits} (hne : whole ≠ []) (hzero : ∀ d ds, whole ≠ 0 :: d :: ds)
    {rest : List UInt8} (hrest : StopsDigits rest) :
    scanWhole? (bytesOf whole ++ rest) = some (whole, rest) := by
  rw [scanWhole?, spanDigits_append whole hrest]
  split
  case h_1 heq => exact absurd (congrArg Prod.fst heq) hne
  case h_2 heq => exact absurd (congrArg Prod.fst heq) (hzero _ _)
  case h_3 heq => rw [← heq]

lemma WellFormed.scan? {n : Numeral} (h : n.WellFormed) {text : List UInt8} (htext : ExponentText n.exponent text)
    {rest : List UInt8} (hrest : Stops rest) :
    Numeral.scan? n.negative (bytesOf n.whole ++ (fractionBytes n.fraction ++ (text ++ rest))) = some (n, rest) := by
  have hstop : StopsDigits (fractionBytes n.fraction ++ (text ++ rest)) :=
    stopsDigits_fractionBytes (htext.stopsDigits hrest)
  rw [Numeral.scan?, scanWhole?_append h.whole_ne_nil h.no_leading_zero hstop]
  simp only [Option.bind_eq_bind, Option.bind_some]
  rw [scanFraction?_append n.fraction htext hrest, Option.bind_some, scanExponent?_append htext h.exponent_ne_nil hrest]
  rfl

structure Spells (n : Numeral) (bs : List UInt8) : Prop where
  wellFormed : n.WellFormed
  text : ∃ exponent, ExponentText n.exponent exponent ∧ bs = (if n.negative then [byteOf '-'] else []) ++
    (bytesOf n.whole ++ (fractionBytes n.fraction ++ exponent))

lemma WellFormed.spells {n : Numeral} (h : n.WellFormed) : n.Spells n.bytes :=
  ⟨h, exponentBytes n.exponent, exponentText_exponentBytes _, n.bytes_eq⟩

end Numeral

/-! ### Tokens -/

def Plain (body : List UInt8) : Prop := ∀ b ∈ body, 0x20 ≤ b ∧ b ≠ quote ∧ b ≠ backslash

instance (body : List UInt8) : Decidable (Plain body) :=
  List.decidableBAll (fun b => 0x20 ≤ b ∧ b ≠ quote ∧ b ≠ backslash) body

/-- The body of any string: escapes are those that exist, and quotes and control characters do not
stand for themselves. -/
inductive Body : List UInt8 → Prop
  | nil : Body []
  | byte {b : UInt8} {bs : List UInt8} (hb : 0x20 ≤ b ∧ b ≠ quote ∧ b ≠ backslash) : Body bs → Body (b :: bs)
  | escape {b : UInt8} {bs : List UInt8} (hb : (simpleEscape? b).isSome) : Body bs → Body (backslash :: b :: bs)
  | codeUnit {a b c d : UInt8} {bs : List UInt8} (h : (hexUnit? a b c d).isSome) :
      Body bs → Body (backslash :: 0x75 :: a :: b :: c :: d :: bs)

lemma Plain.body {body : List UInt8} (h : Plain body) : Body body := by
  induction body with
  | nil => exact .nil
  | cons b body ih =>
    obtain ⟨hb, hbody⟩ := List.forall_mem_cons.1 h
    exact .byte hb (ih hbody)

def Printable (bytes : List UInt8) : Prop := ∀ b ∈ bytes, 0x20 ≤ b

instance (bytes : List UInt8) : Decidable (Printable bytes) := List.decidableBAll (fun b => 0x20 ≤ b) bytes

lemma Printable.append {xs ys : List UInt8} (hx : Printable xs) (hy : Printable ys) : Printable (xs ++ ys) :=
  List.forall_mem_append.2 ⟨hx, hy⟩

lemma Printable.cons {b : UInt8} {bs : List UInt8} (hb : 0x20 ≤ b) (hbs : Printable bs) : Printable (b :: bs) :=
  List.forall_mem_cons.2 ⟨hb, hbs⟩

namespace Token

def WellFormed : Token → Prop
  | .numeral n => n.WellFormed
  | .string body => Plain body
  | .bad => False
  | _ => True

def isNumeral : Token → Bool
  | .numeral _ => true
  | _ => false

def closes : Token → Bool
  | .comma | .closeBrace | .closeBracket => true
  | _ => false

lemma scanBody?_append {body : List UInt8} (h : Body body) (rest : List UInt8) :
    scanBody? (body ++ quote :: rest) = some (body, rest) := by
  induction h with
  | nil => rw [List.nil_append, scanBody?]
  | @byte b bs hb _ ih =>
    obtain ⟨hprintable, hquote, hbackslash⟩ := hb
    have hallowed : ¬(b < 0x20 ∨ b = 0x5c) := not_or.2 ⟨UInt8.not_lt.2 hprintable, hbackslash⟩
    rw [List.cons_append, scanBody?.eq_def]
    split
    case h_5 heq =>
      cases heq
      rw [if_neg hallowed, ih]
      rfl
    all_goals simp_all
  | @escape b bs hb _ ih =>
    rw [List.cons_append, List.cons_append, scanBody?.eq_def]
    split
    case h_2 heq => exact absurd (List.cons.inj heq).1 (by decide)
    case h_3 heq =>
      rw [(List.cons.inj (List.cons.inj heq).2).1] at hb
      exact absurd hb (by decide)
    case h_4 heq =>
      cases heq
      rw [if_pos hb, ih]
      rfl
    case h_5 hother heq => exact (hother b _ (List.cons.inj heq).1.symm (List.cons.inj heq).2.symm).elim
    case h_1 heq => cases heq
  | codeUnit h _ ih =>
    simp only [List.cons_append]
    rw [scanBody?, if_pos h, ih]
    rfl

lemma scan?_minus (bs : List UInt8) :
    scan? (Numeral.byteOf '-' :: bs) = (Numeral.scan? true bs).map (Prod.map numeral id) := rfl

lemma scan?_digit (d : Fin 10) (bs : List UInt8) : scan? ((48 + d.val.toUInt8) :: bs) =
    (Numeral.scan? false ((48 + d.val.toUInt8) :: bs)).map (Prod.map numeral id) := by
  have hother : punctuation? (48 + d.val.toUInt8) = none ∧ word? (48 + d.val.toUInt8) = none ∧
      (48 + d.val.toUInt8 : UInt8) ≠ quote ∧ (48 + d.val.toUInt8 : UInt8) ≠ 0x2d := by
    revert d
    decide
  obtain ⟨hpunctuation, hword, hquote, hminus⟩ := hother
  simp only [scan?, hpunctuation, hword, if_neg hquote, if_neg hminus]
  rfl

def Spells : Token → List UInt8 → Prop
  | .numeral n, bs => n.Spells bs
  | .string body, bs => Body body ∧ bs = quote :: body ++ [quote]
  | .bad, _ => False
  | t, bs => bs = t.bytes

lemma WellFormed.spells {t : Token} (h : t.WellFormed) : t.Spells t.bytes := by
  cases t with
  | numeral n => exact Numeral.WellFormed.spells h
  | string body => exact ⟨Plain.body h, rfl⟩
  | bad => exact h.elim
  | _ => rfl

lemma scan?_numeral {n : Numeral} {bs : List UInt8} (h : n.Spells bs) {rest : List UInt8}
    (hrest : Numeral.Stops rest) : scan? (bs ++ rest) = some (numeral n, rest) := by
  obtain ⟨hn, exponent, hexponent, rfl⟩ := h
  have hscan := hn.scan? hexponent hrest
  rw [List.append_assoc, List.append_assoc, List.append_assoc]
  cases hsign : n.negative with
  | true =>
    rw [hsign] at hscan
    rw [if_pos rfl, List.singleton_append, scan?_minus, hscan]
    rfl
  | false =>
    obtain ⟨d, ds, hwhole⟩ := List.exists_cons_of_ne_nil hn.whole_ne_nil
    rw [hsign, hwhole] at hscan
    rw [if_neg Bool.false_ne_true, List.nil_append, hwhole, Numeral.bytesOf, List.map_cons, List.cons_append,
      scan?_digit]
    exact congrArg (Option.map _) hscan

lemma scan?_string {body : List UInt8} (h : Body body) (rest : List UInt8) :
    scan? (quote :: body ++ [quote] ++ rest) = some (string body, rest) := by
  have hbody := scanBody?_append h rest
  have hshape (bs : List UInt8) : scan? (quote :: bs) = (scanBody? bs).map (Prod.map string id) := rfl
  rw [List.cons_append, List.cons_append, List.append_assoc, List.singleton_append, hshape, hbody]
  rfl

lemma scan?_append {t : Token} {bs : List UInt8} (h : t.Spells bs) {rest : List UInt8}
    (hrest : t.isNumeral → Numeral.Stops rest) : scan? (bs ++ rest) = some (t, rest) := by
  cases t with
  | numeral n => exact scan?_numeral h (hrest rfl)
  | string body =>
    obtain ⟨hbody, rfl⟩ := h
    exact scan?_string hbody rest
  | bad => exact h.elim
  | boolean b =>
    cases h
    cases b <;> rfl
  | _ =>
    cases h
    rfl

lemma Spells.eq_cons {t : Token} {bs : List UInt8} (h : t.Spells bs) :
    ∃ b rest, bs = b :: rest ∧ isBlank b = false := by
  have hdigit (d : Fin 10) : isBlank (48 + d.val.toUInt8) = false := by
    revert d
    decide
  cases t with
  | numeral n =>
    obtain ⟨hn, exponent, -, rfl⟩ := h
    obtain ⟨d, ds, hwhole⟩ := List.exists_cons_of_ne_nil hn.whole_ne_nil
    rw [hwhole]
    cases n.negative with
    | true => exact ⟨_, _, rfl, rfl⟩
    | false => exact ⟨_, _, rfl, hdigit d⟩
  | string body => exact ⟨_, _, h.2, rfl⟩
  | bad => exact h.elim
  | boolean b =>
    cases h
    cases b <;> exact ⟨_, _, rfl, rfl⟩
  | _ =>
    cases h
    exact ⟨_, _, rfl, rfl⟩

lemma printable {t : Token} (h : t.WellFormed) : Printable t.bytes := by
  have hdigits (ds : Digits) : Printable (Numeral.bytesOf ds) := by
    have hdigit (d : Fin 10) : (0x20 : UInt8) ≤ 48 + d.val.toUInt8 := by
      revert d
      decide
    exact List.forall_mem_map.2 fun d _ => hdigit d
  cases t with
  | numeral n =>
    have hsign : Printable (if n.negative then [Numeral.byteOf '-'] else []) := by
      split <;> decide
    have hfraction : Printable (Numeral.fractionBytes n.fraction) := by
      rw [Numeral.fractionBytes]
      split
      · exact nofun
      · exact (hdigits _).cons (by decide)
    have hexponent : Printable (Numeral.exponentBytes n.exponent) := by
      match n.exponent with
      | none => exact nofun
      | some (negative, ds) =>
        apply Printable.cons (by decide)
        apply Printable.cons _ (hdigits ds)
        cases negative <;> decide
    rw [bytes, Numeral.bytes_eq]
    exact hsign.append ((hdigits _).append (hfraction.append hexponent))
  | string body =>
    have hbody : Printable body := fun b hb => (h b hb).1
    exact (hbody.cons (by decide)).append (by decide)
  | boolean b => cases b <;> decide
  | bad => exact h.elim
  | _ => decide

lemma list_append {t : Token} {bs : List UInt8} (h : t.Spells bs) {rest : List UInt8}
    (hrest : t.isNumeral → Numeral.Stops rest) : list (bs ++ rest) = t :: list rest := by
  have hscan := scan?_append h hrest
  obtain ⟨b, bs, rfl, hblank⟩ := h.eq_cons
  rw [List.cons_append] at hscan ⊢
  rw [list, if_neg (by simp [hblank])]
  split
  case h_1 heq =>
    rw [hscan] at heq
    cases heq
    rfl
  case h_2 heq => simp [hscan] at heq

lemma list_blanks_append {blanks : List UInt8} (h : ∀ b ∈ blanks, isBlank b) (rest : List UInt8) :
    list (blanks ++ rest) = list rest := by
  induction blanks with
  | nil => rfl
  | cons b blanks ih =>
    obtain ⟨hb, hblanks⟩ := List.forall_mem_cons.1 h
    rw [List.cons_append, list, if_pos hb, ih hblanks]

def Spaced (t u : Token) : Prop := t.isNumeral → u.closes

lemma stops_of_closes {t : Token} (h : t.closes) {bs : List UInt8} (hbs : t.Spells bs) (rest : List UInt8) :
    Numeral.Stops (bs ++ rest) := by
  cases t with
  | comma =>
    cases hbs
    exact (by decide : ¬Numeral.continues 0x2c)
  | closeBrace =>
    cases hbs
    exact (by decide : ¬Numeral.continues 0x7d)
  | closeBracket =>
    cases hbs
    exact (by decide : ¬Numeral.continues 0x5d)
  | _ => exact absurd h Bool.false_ne_true

lemma stops_of_isBlank {b : UInt8} (h : isBlank b) : ¬Numeral.continues b := by
  simp only [isBlank, Bool.or_eq_true, beq_iff_eq] at h
  rcases h with ((rfl | rfl) | rfl) | rfl <;> decide

lemma stops_of_blanks {blanks rest : List UInt8} (h : ∀ b ∈ blanks, isBlank b) (hrest : Numeral.Stops rest) :
    Numeral.Stops (blanks ++ rest) := by
  cases blanks with
  | nil => exact hrest
  | cons b blanks => exact stops_of_isBlank (h b (List.mem_cons_self ..))

/-- Tokens one after another, with blanks before, between and after them. -/
inductive Written : List Token → List UInt8 → Prop
  | nil {blanks : List UInt8} (hblanks : ∀ b ∈ blanks, isBlank b) : Written [] blanks
  | cons {t : Token} {ts : List Token} {blanks bs rest : List UInt8} (hblanks : ∀ b ∈ blanks, isBlank b)
      (hbs : t.Spells bs) (hrest : Written ts rest) : Written (t :: ts) (blanks ++ (bs ++ rest))

lemma written_flatMap_bytes {ts : List Token} (h : ∀ t ∈ ts, t.WellFormed) : Written ts (ts.flatMap bytes) := by
  induction ts with
  | nil => exact .nil nofun
  | cons t ts ih =>
    obtain ⟨ht, hts⟩ := List.forall_mem_cons.1 h
    have hwritten : Written (t :: ts) ([] ++ (t.bytes ++ ts.flatMap bytes)) := .cons nofun ht.spells (ih hts)
    exact hwritten

theorem list_of_written {ts : List Token} {text : List UInt8} (h : Written ts text) (hspaced : ts.IsChain Spaced) :
    list text = ts := by
  induction h with
  | @nil blanks hblanks =>
    have hlist := list_blanks_append hblanks []
    rw [List.append_nil] at hlist
    rw [hlist, list]
  | @cons t ts blanks bs rest hblanks hbs hrest ih =>
    rw [list_blanks_append hblanks, list_append hbs, ih hspaced.tail]
    intro hnumeral
    cases hrest with
    | nil hmore =>
      have hstops : Numeral.Stops (rest ++ []) := stops_of_blanks hmore trivial
      rwa [List.append_nil] at hstops
    | cons hmore hbs' =>
      exact stops_of_blanks hmore (stops_of_closes ((List.isChain_cons_cons.1 hspaced).1 hnumeral) hbs' _)

lemma list_flatMap_bytes {ts : List Token} (h : ∀ t ∈ ts, t.WellFormed) (hspaced : ts.IsChain Spaced) :
    list (ts.flatMap bytes) = ts :=
  list_of_written (written_flatMap_bytes h) hspaced

end Token

end DecodeBench.Json
