import DecodeBench.Json.Records
import DecodeBench.Proofs.Json.WrittenFields

/-! Records and names read back from their own text. The text of a record is one object or one array;
either is read as the record it was written from, exactly if its numbers fit the words of the machine. -/

namespace DecodeBench.Json

open Decimal (Digits)
open Model (Dimensions)
open Value (separated)

/-! ### Fields in order -/

structure Legible (fs : List Field) : Prop where
  apart : Apart fs
  plain : ∀ f ∈ fs, Plain (utf8 f.name)
  sound : ∀ f ∈ fs, f.kind.Sound

instance (fs : List Field) : Decidable (Legible fs) :=
  decidable_of_iff (Apart fs ∧ (∀ f ∈ fs, Plain (utf8 f.name)) ∧ ∀ f ∈ fs, f.kind.Sound)
    ⟨fun ⟨apart, plain, sound⟩ => ⟨apart, plain, sound⟩, fun h => ⟨h.apart, h.plain, h.sound⟩⟩

def FitValues : (fs : List Field) → Values fs → Prop
  | [], () => True
  | f :: fs, (x, vs) => f.kind.Fits x ∧ FitValues fs vs

section Fields

variable {all fs : List Field} {f : Field} {seen : List Member}

lemma Legible.tail (h : Legible (f :: fs)) : Legible fs :=
  ⟨h.apart.tail, (List.forall_mem_cons.1 h.plain).2, (List.forall_mem_cons.1 h.sound).2⟩

lemma Legible.readsIf_head (h : Legible (f :: fs)) (x : f.kind.Value) :
    ReadsIf f.kind.read (f.kind.Fits x) (f.kind.write x).tokens x :=
  Kind.readsIf_write (List.forall_mem_cons.1 h.sound).1 x

lemma Legible.wellFormed_head (h : Legible (f :: fs)) (x : f.kind.Value) : (f.kind.write x).WellFormed :=
  Kind.wellFormed_write (List.forall_mem_cons.1 h.sound).1 x

lemma Field.answersTo_name (f : Field) : f.answersTo f.name := by
  simp [Field.answersTo]

def writtenMembers (fs : List Field) (vs : Values fs) : List Member :=
  (Shape.writeMembers fs vs).map fun (key, v) => (utf8 key, v)

lemma exists_field_of_mem {vs : Values fs} {m : Member} (h : m ∈ writtenMembers fs vs) :
    ∃ f ∈ fs, m.1 = utf8 f.name := by
  induction fs with
  | nil => cases h
  | cons f fs ih =>
    obtain ⟨x, vs⟩ := vs
    rcases List.mem_cons.1 h with rfl | h
    · exact ⟨f, List.mem_cons_self .., rfl⟩
    · obtain ⟨g, hg, hm⟩ := ih h
      exact ⟨g, List.mem_cons_of_mem f hg, hm⟩

lemma Legible.means_name (h : Legible (f :: fs)) {g : Field} (hg : g ∈ fs) :
    g.means (utf8 f.name) = false ∧ f.means (utf8 g.name) = false := by
  obtain ⟨hf, hfs⟩ := List.forall_mem_cons.1 h.plain
  rw [Field.means_of_text? (text?_of_plain hf), Field.means_of_text? (text?_of_plain (hfs g hg))]
  refine ⟨?_, h.apart.head_answers hg g.answersTo_name⟩
  rw [Bool.eq_false_iff]
  intro hanswers
  exact absurd f.answersTo_name (by simp [h.apart.head_answers hg hanswers])

lemma Legible.unmeant (h : Legible (f :: fs)) (hseen : ∀ g ∈ f :: fs, seen.filter (g.means ·.1) = []) (v : Value) :
    ∀ g ∈ fs, (seen ++ [(utf8 f.name, v)]).filter (g.means ·.1) = [] := by
  intro g hg
  simp [hseen g (List.mem_cons_of_mem f hg), (h.means_name hg).1]

lemma Legible.means_self (h : Legible (f :: fs)) : f.means (utf8 f.name) := by
  rw [Field.means_of_text? (text?_of_plain (List.forall_mem_cons.1 h.plain).1)]
  exact f.answersTo_name

lemma gives_written (h : Legible fs) {vs : Values fs} (hfits : FitValues fs vs)
    (hseen : ∀ f ∈ fs, seen.filter (f.means ·.1) = []) : Gives (seen ++ writtenMembers fs vs) fs vs := by
  -- The member of the first field joins those that were seen before the others.
  induction fs generalizing seen with
  | nil => trivial
  | cons f fs ih =>
    obtain ⟨x, vs⟩ := vs
    obtain ⟨hx, hvs⟩ := hfits
    have hsplit : seen ++ writtenMembers (f :: fs) (x, vs) =
        seen ++ [(utf8 f.name, f.kind.write x)] ++ writtenMembers fs vs := by
      simp [writtenMembers, Shape.writeMembers]
    have hothers : (writtenMembers fs vs).filter (f.means ·.1) = [] := by
      rw [List.filter_eq_nil_iff]
      intro m hm
      obtain ⟨g, hg, hkey⟩ := exists_field_of_mem hm
      simp [hkey, (h.means_name hg).2]
    rw [hsplit]
    refine ⟨⟨(utf8 f.name, f.kind.write x), ?_, (h.readsIf_head x).reads hx⟩, ih h.tail hvs (h.unmeant hseen _)⟩
    simp [List.filter_append, hseen f (List.mem_cons_self ..), hothers, h.means_self]

lemma readMembers_unfit {slots : Slots all} (hapart : Apart all) (hall : ∀ f ∈ fs, f ∈ all) (h : Legible fs)
    {vs : Values fs} (hunfit : ¬FitValues fs vs) (hseen : ∀ f ∈ fs, seen.filter (f.means ·.1) = [])
    (hslots : SlotsFrom seen all slots) :
    ∃ e, ∀ ts, Shape.readMembers all slots (following (writtenMembers fs vs) ++ ts) = .error e := by
  induction fs generalizing seen slots with
  | nil => exact absurd trivial hunfit
  | cons f fs ih =>
    obtain ⟨x, vs⟩ := vs
    obtain ⟨hf, hfs⟩ := List.forall_mem_cons.1 hall
    have hfresh := hseen f (List.mem_cons_self ..)
    have hwrite := h.readsIf_head x
    have hsplit : writtenMembers (f :: fs) (x, vs) = (utf8 f.name, f.kind.write x) :: writtenMembers fs vs := rfl
    by_cases hx : f.kind.Fits x
    · obtain ⟨slots', hslots', hread⟩ := readMember_fresh (m := (utf8 f.name, f.kind.write x)) hapart hslots hf
        h.means_self hfresh (hwrite.reads hx)
      obtain ⟨e, he⟩ := ih hfs h.tail (fun hvs => hunfit ⟨hx, hvs⟩) (h.unmeant hseen _) hslots'
      refine ⟨e, fun ts => ?_⟩
      rw [hsplit, following_cons, readMembers_comma, hread]
      exact he ts
    · obtain ⟨e, he⟩ := hwrite.refuses hx
      have hread := readMember_refused (m := (utf8 f.name, f.kind.write x)) hapart hslots hf h.means_self hfresh he
      refine ⟨e, fun ts => ?_⟩
      rw [hsplit, following_cons, readMembers_comma, hread]
      rfl

theorem readsIf_object (h : Legible fs) (vs : Values fs) :
    ReadsIf (Shape.readObject fs) (FitValues fs vs) (objectRest (writtenMembers fs vs)) vs where
  reads hfits rest := by
    have hgives : Gives ([] ++ writtenMembers fs vs) fs vs := gives_written h hfits fun _ _ => rfl
    refine readObject_of_gives h.apart (fun m hm => ?_) hgives rest
    obtain ⟨f, hf, hkey⟩ := exists_field_of_mem hm
    rw [hkey, text?_of_plain (h.plain f hf)]
    rfl
  refuses hunfit := by
    obtain ⟨e, he⟩ := readMembers_unfit h.apart (fun _ hf => hf) h hunfit (fun _ _ => rfl) (slotsFrom_empty fs)
    refine ⟨e, fun rest => ?_⟩
    rw [readObject_eq, he]
    rfl

def elementTokens (fs : List Field) (vs : Values fs) : List (List Token) :=
  (Shape.writeElements fs vs).map Value.tokens

variable {name : String} {total : Nat}

lemma readsIf_elements_from (h : Legible fs) (vs : Values fs) (index : Nat) :
    ReadsIf (Shape.readArray name total fs (index + 1)) (FitValues fs vs)
      ((elementTokens fs vs).flatMap (.comma :: ·) ++ [.closeBracket]) vs := by
  induction fs generalizing index with
  | nil => exact ⟨fun _ _ => rfl, fun hunfit => absurd trivial hunfit⟩
  | cons f fs ih =>
    obtain ⟨x, vs⟩ := vs
    apply ((h.readsIf_head x).and_then (ih h.tail vs (index + 1))).congr
    intro rest
    simp only [elementTokens, Shape.writeElements, List.map_cons, List.flatMap_cons, List.cons_append,
      List.append_assoc]
    rfl

lemma readArray_first {t : Token} (ht : t ≠ .closeBracket) (ts : List Token) :
    Shape.readArray name total (f :: fs) 0 (t :: ts) = do
      let (x, ts) ← f.kind.read (t :: ts)
      let (vs, ts) ← Shape.readArray name total fs 1 ts
      return ((x, vs), ts) := by
  cases t with
  | closeBracket => exact absurd rfl ht
  | _ => rfl

theorem readsIf_array (h : Legible fs) (vs : Values fs) :
    ReadsIf (Shape.readArray name total fs 0) (FitValues fs vs)
      (separated (elementTokens fs vs) ++ [.closeBracket]) vs := by
  cases fs with
  | nil => exact ⟨fun _ _ => rfl, fun hunfit => absurd trivial hunfit⟩
  | cons f fs =>
    obtain ⟨x, vs⟩ := vs
    obtain ⟨t, ts, ht, hclose⟩ := (f.kind.write x).tokens_eq_cons
    apply ((h.readsIf_head x).and_then (readsIf_elements_from h.tail vs 0)).congr
    intro rest
    simp only [elementTokens, Shape.writeElements, List.map_cons, separated_cons, List.append_assoc, ht,
      List.cons_append]
    exact readArray_first hclose _

end Fields

/-! ### Records -/

class LawfulRecord (α : Type) [Recorded α] : Prop where
  legible : Legible (Recorded.shape α).fields
  ofValues_values : ∀ a : α, Recorded.ofValues (Recorded.values a) = a

section Records

variable {α : Type} [Recorded α]

def listed (a : α) : Value := .array (Shape.writeElements (Recorded.shape α).fields (Recorded.values a))

structure ReadsBack (α : Type) [Recorded α] (fits : α → Prop) : Prop where
  object : ∀ a b : α, parseRecord α (record a).bytes = .ok b ↔ fits a ∧ b = a
  array : ∀ a b : α, parseRecord α (listed a).bytes = .ok b ↔ fits a ∧ b = a

variable [LawfulRecord α]

lemma readsIf_record {p : Prop} {ts : List Token} {a : α}
    (h : ReadsIf (Recorded.shape α).read p ts (Recorded.values a)) : ReadsIf (readRecord α) p ts a where
  reads hp rest := by
    simp only [readRecord, h.reads hp, Except.map, LawfulRecord.ofValues_values]
  refuses hp := by
    obtain ⟨e, he⟩ := h.refuses hp
    exact ⟨e, fun rest => by simp only [readRecord, he, Except.map]⟩

lemma wellFormed_elements {fs : List Field} (h : Legible fs) (vs : Values fs) :
    ∀ v ∈ Shape.writeElements fs vs, v.WellFormed := by
  induction fs with
  | nil => exact nofun
  | cons f fs ih =>
    obtain ⟨x, vs⟩ := vs
    exact List.forall_mem_cons.2 ⟨h.wellFormed_head x, ih h.tail vs⟩

lemma wellFormed_members {fs : List Field} (h : Legible fs) (vs : Values fs) :
    ∀ m ∈ Shape.writeMembers fs vs, Plain (utf8 m.1) ∧ m.2.WellFormed := by
  induction fs with
  | nil => exact nofun
  | cons f fs ih =>
    obtain ⟨x, vs⟩ := vs
    exact List.forall_mem_cons.2 ⟨⟨(List.forall_mem_cons.1 h.plain).1, h.wellFormed_head x⟩, ih h.tail vs⟩

theorem readsBack {fits : α → Prop} (h : ∀ a, fits a ↔ FitValues (Recorded.shape α).fields (Recorded.values a)) :
    ReadsBack α fits where
  object a b := by
    have hlegible := LawfulRecord.legible (α := α)
    have hread : ReadsIf (Recorded.shape α).read (fits a) (record a).tokens (Recorded.values a) := by
      rw [h a]
      apply (readsIf_object hlegible (Recorded.values a)).congr
      intro rest
      rw [record, Shape.write, Value.record, Value.tokens, Value.memberTokens_eq_map]
      rfl
    apply (readsIf_record hread).parse_eq_ok_iff
    have hmembers := wellFormed_members hlegible (Recorded.values a)
    exact Value.wellFormed_record (List.forall_mem_map.2 fun m hm => (hmembers m hm).1) fun m hm => (hmembers m hm).2
  array a b := by
    have hlegible := LawfulRecord.legible (α := α)
    have hread : ReadsIf (Recorded.shape α).read (fits a) (listed a).tokens (Recorded.values a) := by
      rw [h a]
      apply (readsIf_array hlegible (Recorded.values a)).congr
      intro rest
      rw [listed, Value.tokens, Value.elementTokens_eq_map]
      rfl
    apply (readsIf_record hread).parse_eq_ok_iff
    exact Value.wellFormed_array (wellFormed_elements hlegible _)

end Records

example : (record (⟨128, 256, 4⟩ : GridPoint)).bytes =
    utf8 "\x7b\"prompt_len\":128,\"gen_len\":256,\"parallelism\":4\x7d" := by decide +kernel

example : (listed (⟨7, 0, [3, 63], true⟩ : Request)).bytes = utf8 "[7,0,[3,63],true]" := by decide +kernel

/-! ### Names -/

class LawfulNames (α : Type) [Named α] : Prop where
  sound : (Kind.choice (Named.names α)).Sound
  ofIndex_index : ∀ a : α, Named.ofIndex (Named.index a) = a

theorem parseName_name {α : Type} [Named α] [LawfulNames α] (a : α) : parseName α (name a).bytes = .ok a := by
  have hsound : (Kind.choice (Named.names α)).Sound := LawfulNames.sound
  have hread := Kind.readsIf_write hsound (Named.index a)
  have hparse : parse (Kind.readChoice (Named.names α)) (name a).bytes = .ok (Named.index a) :=
    (hread.parse_eq_ok_iff (Kind.wellFormed_write hsound _)).2 ⟨trivial, rfl⟩
  rw [parseName, hparse]
  exact congrArg Except.ok (LawfulNames.ofIndex_index a)

/-! ### Literals -/

structure Literal (ds : Digits) : Prop where
  ne_nil : ds ≠ []
  no_leading_zero : ∀ d rest, ds ≠ 0 :: d :: rest

lemma Literal.digits_value {ds : Digits} (h : Literal ds) : Decimal.digits (Decimal.value ds) = ds := by
  induction ds using List.reverseRecOn with
  | nil => exact absurd rfl h.ne_nil
  | append_singleton ds d ih =>
    rw [Decimal.value_append_singleton]
    cases ds with
    | nil =>
      have hd : 10 * Decimal.value [] + d.val = d.val := Nat.zero_add d.val
      rw [hd, Decimal.digits, dif_pos d.isLt]
      rfl
    | cons c cs =>
      have hfirst : c ≠ 0 := by
        rintro rfl
        cases cs with
        | nil => exact h.no_leading_zero d [] rfl
        | cons e cs => exact h.no_leading_zero e (cs ++ [d]) rfl
      have hprefix := ih ⟨List.cons_ne_nil c cs, fun _ _ heq => hfirst (List.cons.inj heq).1⟩
      have hpos : Decimal.value (c :: cs) ≠ 0 := by
        intro hzero
        rw [hzero, Decimal.digits] at hprefix
        exact hfirst (List.cons.inj hprefix).1.symm
      have hdiv : (10 * Decimal.value (c :: cs) + d.val) / 10 = Decimal.value (c :: cs) := by omega
      have hmod : (10 * Decimal.value (c :: cs) + d.val) % 10 = d.val := by omega
      rw [Decimal.digits, dif_neg (by omega), hdiv, hprefix]
      simp only [hmod]

lemma Literal.bytes_eq {ds : Digits} (h : Literal ds) :
    (Value.natural (Decimal.value ds)).bytes = Numeral.bytesOf ds := by
  have htokens : (Value.natural (Decimal.value ds)).bytes = (Numeral.ofNat (Decimal.value ds)).bytes ++ [] := rfl
  rw [htokens, Numeral.ofNat, h.digits_value]
  simp [Numeral.bytes]

/-! ### The records of the benchmark -/

instance : LawfulRecord Request := ⟨by decide +kernel, fun _ => rfl⟩

instance : LawfulRecord GridPoint := ⟨by decide +kernel, fun _ => rfl⟩

instance : LawfulRecord Transformer.Limits := ⟨by decide +kernel, fun _ => rfl⟩

instance : LawfulRecord Dimensions := ⟨by decide +kernel, fun _ => rfl⟩

instance : LawfulNames OutputFormat := ⟨by decide +kernel, fun f => by cases f <;> rfl⟩

instance : LawfulNames Sweep.FailurePolicy := ⟨by decide +kernel, fun p => by cases p <;> rfl⟩

instance : LawfulRecord Sweep.Config := by
  refine ⟨by decide +kernel, fun c => ?_⟩
  have hpolicy := LawfulNames.ofIndex_index c.failurePolicy
  simp only [Recorded.ofValues, Recorded.values, hpolicy]

theorem configurations_survive_json :
    ReadsBack Sweep.Config (fun c =>
      (∀ n ∈ c.promptLengths ++ c.genLengths ++ c.parallelism, n < Nat.pow 2 64) ∧
      ∀ n ∈ [c.repeatCount, c.cacheBudget, c.chunkSize, c.warmupTokens, c.sequenceLimit], n < Nat.pow 2 64) ∧
    ReadsBack Request (fun r => r.token < Nat.pow 2 32 ∧ ∀ n ∈ r.position :: r.sequences, n < Nat.pow 2 64) ∧
    ReadsBack GridPoint (fun p => ∀ n ∈ [p.promptLength, p.genLength, p.parallelism], n < Nat.pow 2 64) ∧
    ReadsBack Transformer.Limits (fun l => ∀ n ∈ [l.cells, l.batch, l.sequences, l.seed], n < Nat.pow 2 64) ∧
    ReadsBack Dimensions (fun d => ∀ n ∈ [d.vocabulary, d.hidden, d.layers, d.heads], n < Nat.pow 2 64) ∧
    (∀ f : OutputFormat, parseName OutputFormat (name f).bytes = .ok f) ∧
    ∀ ds, Literal ds → (Value.natural (Decimal.value ds)).bytes = Numeral.bytesOf ds ∧ ∀ n : Nat,
      (parse Kind.size.read (Numeral.bytesOf ds) = .ok n ↔ Decimal.value ds < Nat.pow 2 64 ∧ n = Decimal.value ds) ∧
      (parse Kind.word32.read (Numeral.bytesOf ds) = .ok n ↔ Decimal.value ds < Nat.pow 2 32 ∧ n = Decimal.value ds) := by
  refine ⟨readsBack fun c => ?_, readsBack fun r => ?_, readsBack fun p => ?_, readsBack fun l => ?_,
    readsBack fun d => ?_, parseName_name, fun ds hds => ?_⟩
  · simp [FitValues, Recorded.values, Recorded.shape, Kind.Fits, Kind.size, or_imp, forall_and, and_assoc]
  · simp [FitValues, Recorded.values, Recorded.shape, Kind.Fits, Kind.size, Kind.word32]
  · simp [FitValues, Recorded.values, Recorded.shape, Kind.Fits, Kind.size]
  · simp [FitValues, Recorded.values, Recorded.shape, Kind.Fits, Kind.size, Kind.word64]
  · simp [FitValues, Recorded.values, Recorded.shape, Kind.Fits, Kind.size]
  · have hwell := Value.wellFormed_natural (Decimal.value ds)
    rw [← hds.bytes_eq]
    exact ⟨rfl, fun n => ⟨(Kind.readsIf_count "usize" (by decide) _).parse_eq_ok_iff hwell,
      (Kind.readsIf_count "u32" (by decide) _).parse_eq_ok_iff hwell⟩⟩

theorem defaults_and_largest_word_survive_json :
    let largest : Digits := [1, 8, 4, 4, 6, 7, 4, 4, 0, 7, 3, 7, 0, 9, 5, 5, 1, 6, 1, 5]
    parseRecord Sweep.Config (record ({} : Sweep.Config)).bytes = .ok {} ∧
    parseRecord Transformer.Limits (listed ({} : Transformer.Limits)).bytes = .ok {} ∧ Literal largest ∧
    parse Kind.size.read (Numeral.bytesOf largest) = .ok (18446744073709551615 : Nat) ∧
    parse Kind.word32.read (Numeral.bytesOf largest) ≠ .ok (18446744073709551615 : Nat) := by
  intro largest
  obtain ⟨hconfig, -, -, hlimits, -, -, hliteral⟩ := configurations_survive_json
  have hlargest : Literal largest := ⟨List.cons_ne_nil _ _, fun _ _ h => absurd (List.cons.inj h).1 (by decide)⟩
  obtain ⟨hsize, hword⟩ := (hliteral largest hlargest).2 18446744073709551615
  refine ⟨(hconfig.object {} {}).2 ⟨by decide, rfl⟩, (hlimits.array {} {}).2 ⟨by decide, rfl⟩, hlargest,
    hsize.2 (by decide), fun h => ?_⟩
  exact absurd (hword.1 h).1 (by decide)

end DecodeBench.Json
