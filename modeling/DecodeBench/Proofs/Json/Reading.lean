import DecodeBench.Json.Value
import DecodeBench.Proofs.Json.Numerals
import DecodeBench.Proofs.Json.Utf8

/-! Values read back from their text. The reader goes by the grammar alone; it knows neither the order
nor the spelling that values are written in. -/

namespace DecodeBench.Json

/-! ### A reader -/

def readItems? {α : Type} (item : List Token → Option (α × List Token)) (close : Token) :
    (count : Nat) → List Token → Option (List α × List Token)
  | 0, _ => none
  | count + 1, ts =>
    match item ts with
    | some (a, t :: ts) =>
      if t = close then some ([a], ts)
      else if t = .comma then (readItems? item close count ts).map fun (as, ts) => (a :: as, ts)
      else none
    | _ => none

def readContainer? {α : Type} (item : List Token → Option (α × List Token)) (close : Token) (count : Nat)
    (ts : List Token) : Option (List α × List Token) :=
  if ts.head? = some close then some ([], ts.tail) else readItems? item close count ts

def readMember? {α : Type} (value : List Token → Option (α × List Token)) :
    List Token → Option ((List UInt8 × α) × List Token)
  | .string key :: .colon :: ts => (value ts).map fun (a, ts) => ((key, a), ts)
  | _ => none

def readValue? : (depth : Nat) → List Token → Option (Value × List Token)
  | depth + 1, t :: ts =>
    match t with
    | .null => some (.null, ts)
    | .boolean b => some (.boolean b, ts)
    | .numeral n => some (.numeral n, ts)
    | .string body => some (.string body, ts)
    | .openBracket =>
      (readContainer? (readValue? depth) .closeBracket depth ts).map fun (vs, ts) => (.array vs, ts)
    | .openBrace =>
      (readContainer? (readMember? (readValue? depth)) .closeBrace depth ts).map fun (ms, ts) => (.object ms, ts)
    | _ => none
  | _, _ => none

namespace Value

def parse? (bytes : List UInt8) : Option Value :=
  match readValue? (Token.list bytes).length (Token.list bytes) with
  | some (v, []) => some v
  | _ => none

end Value

/-! ### Reading what is written -/

lemma text?_of_plain {s : String} (h : Plain (utf8 s)) : text? (utf8 s) = some s :=
  text?_utf8 fun hmem => (h _ hmem).2.2 rfl

namespace Value

@[elab_as_elim, induction_eliminator]
theorem induction {P : Value → Prop} (null : P .null) (boolean : ∀ b, P (.boolean b)) (numeral : ∀ n, P (.numeral n))
    (string : ∀ body, P (.string body)) (array : ∀ vs, (∀ v ∈ vs, P v) → P (.array vs))
    (object : ∀ ms, (∀ m ∈ ms, P m.2) → P (.object ms)) : ∀ v, P v :=
  @Value.rec P (fun vs => ∀ v ∈ vs, P v) (fun ms => ∀ m ∈ ms, P m.2) (fun m => P m.2) null boolean numeral string
    array object (fun _ h => nomatch h) (fun _ _ hv hvs => List.forall_mem_cons.2 ⟨hv, hvs⟩) (fun _ h => nomatch h)
    (fun _ _ hm hms => List.forall_mem_cons.2 ⟨hm, hms⟩) (fun _ _ hv => hv)

lemma elementTokens_eq_map (vs : List Value) : elementTokens vs = vs.map tokens := by
  induction vs with
  | nil => rfl
  | cons v vs ih => rw [elementTokens, ih, List.map_cons]

def memberToken (m : List UInt8 × Value) : List Token := .string m.1 :: .colon :: m.2.tokens

lemma memberTokens_eq_map (ms : List (List UInt8 × Value)) : memberTokens ms = ms.map memberToken := by
  induction ms with
  | nil => rfl
  | cons m ms ih => rw [memberTokens, ih, List.map_cons, memberToken]

lemma tokens_eq_cons (v : Value) : ∃ t ts, v.tokens = t :: ts ∧ t ≠ .closeBracket := by
  cases v <;> exact ⟨_, _, rfl, nofun⟩

lemma memberToken_eq_cons (m : List UInt8 × Value) : ∃ t ts, memberToken m = t :: ts ∧ t ≠ .closeBrace :=
  ⟨.string m.1, _, rfl, nofun⟩

lemma separated_cons_cons (ts us : List Token) (rest : List (List Token)) :
    separated (ts :: us :: rest) = ts ++ .comma :: separated (us :: rest) := rfl

end Value

section Containers

open Value (separated)

variable {α : Type} {item : List Token → Option (α × List Token)} {write : α → List Token} {close : Token} {xs : List α}

lemma length_le_separated (h : ∀ x ∈ xs, write x ≠ []) : xs.length ≤ (separated (xs.map write)).length ∧
    ∀ x ∈ xs, (write x).length ≤ (separated (xs.map write)).length := by
  induction xs with
  | nil => simp
  | cons x xs ih =>
    obtain ⟨hx, hrest⟩ := List.forall_mem_cons.1 h
    have hpos := List.length_pos_iff.2 hx
    cases xs with
    | nil => simpa [separated, Nat.one_le_iff_ne_zero] using hx
    | cons y ys =>
      obtain ⟨hcount, hitems⟩ := ih hrest
      have hlength : (separated ((x :: y :: ys).map write)).length =
          (write x).length + 1 + (separated ((y :: ys).map write)).length := by
        simp only [List.map_cons, Value.separated_cons_cons, List.length_append, List.length_cons]
        omega
      refine ⟨by rw [List.length_cons]; omega, List.forall_mem_cons.2 ⟨by omega, fun z hz => ?_⟩⟩
      have hz := hitems z hz
      omega

lemma readItems?_separated (hclose : close ≠ .comma) (hxs : xs ≠ [])
    (hitem : ∀ x ∈ xs, ∀ rest, item (write x ++ rest) = some (x, rest)) {count : Nat} (hcount : xs.length ≤ count)
    (rest : List Token) :
    readItems? item close count (separated (xs.map write) ++ close :: rest) = some (xs, rest) := by
  induction xs generalizing count with
  | nil => exact absurd rfl hxs
  | cons x xs ih =>
    obtain ⟨hx, hrest⟩ := List.forall_mem_cons.1 hitem
    cases count with
    | zero => simp at hcount
    | succ count =>
      cases xs with
      | nil => simp [separated, readItems?, hx]
      | cons y ys =>
        have hmore := ih (List.cons_ne_nil y ys) hrest (Nat.le_of_succ_le_succ hcount)
        rw [List.map_cons] at hmore
        rw [List.map_cons, List.map_cons, Value.separated_cons_cons, List.append_assoc, readItems?, hx]
        simp [hclose.symm, hmore]

/-- Each item is shorter than all of them together, so what reads them may be limited to that length. -/
lemma readContainer?_separated (hclose : close ≠ .comma) {depth : Nat}
    (hstart : ∀ x ∈ xs, ∃ t ts, write x = t :: ts ∧ t ≠ close)
    (hitem : ∀ x ∈ xs, (write x).length ≤ depth → ∀ rest, item (write x ++ rest) = some (x, rest))
    (hdepth : (separated (xs.map write)).length ≤ depth) (rest : List Token) :
    readContainer? item close depth (separated (xs.map write) ++ close :: rest) = some (xs, rest) := by
  have hne : ∀ x ∈ xs, write x ≠ [] := by
    intro x hx
    obtain ⟨t, ts, hcons, -⟩ := hstart x hx
    simp [hcons]
  obtain ⟨hcount, hlength⟩ := length_le_separated hne
  cases xs with
  | nil => exact if_pos rfl
  | cons x xs =>
    obtain ⟨t, ts, hx, ht⟩ := hstart x (List.mem_cons_self ..)
    have hhead : (separated ((x :: xs).map write) ++ close :: rest).head? ≠ some close := by
      cases xs <;> simp [separated, hx, ht]
    rw [readContainer?, if_neg hhead]
    exact readItems?_separated hclose (List.cons_ne_nil x xs)
      (fun y hy => hitem y hy (Nat.le_trans (hlength y hy) hdepth)) (Nat.le_trans hcount hdepth) rest

lemma readMember?_memberToken {value : List Token → Option (Value × List Token)} {m : List UInt8 × Value}
    (h : ∀ rest, value (m.2.tokens ++ rest) = some (m.2, rest)) (rest : List Token) :
    readMember? value (Value.memberToken m ++ rest) = some (m, rest) := by
  rw [Value.memberToken, List.cons_append, List.cons_append, readMember?, h]
  rfl

end Containers

namespace Value

lemma readValue?_tokens (v : Value) {depth : Nat} (hdepth : v.tokens.length ≤ depth) (rest : List Token) :
    readValue? depth (v.tokens ++ rest) = some (v, rest) := by
  induction v generalizing depth rest with
  | array vs ih =>
    cases depth with
    | zero => simp [tokens] at hdepth
    | succ depth =>
      simp only [tokens, elementTokens_eq_map, List.length_append, List.length_cons, List.length_nil] at hdepth
      have hread : readContainer? (readValue? depth) .closeBracket depth
          (separated (vs.map tokens) ++ .closeBracket :: rest) = some (vs, rest) :=
        readContainer?_separated (by decide) (fun v _ => tokens_eq_cons v) (fun v hv hlength => ih v hv hlength)
          (by omega) rest
      simp [tokens, elementTokens_eq_map, readValue?, hread]
  | object ms ih =>
    cases depth with
    | zero => simp [tokens] at hdepth
    | succ depth =>
      simp only [tokens, memberTokens_eq_map, List.length_append, List.length_cons, List.length_nil] at hdepth
      have hmember : ∀ m ∈ ms, (memberToken m).length ≤ depth → ∀ rest,
          readMember? (readValue? depth) (memberToken m ++ rest) = some (m, rest) := by
        intro m hm hlength
        simp only [memberToken, List.length_cons] at hlength
        exact readMember?_memberToken (ih m hm (by omega))
      have hread : readContainer? (readMember? (readValue? depth)) .closeBrace depth
          (separated (ms.map memberToken) ++ .closeBrace :: rest) = some (ms, rest) :=
        readContainer?_separated (by decide) (fun m _ => memberToken_eq_cons m) hmember
          (by omega) rest
      simp [tokens, memberTokens_eq_map, readValue?, hread]
  | null | boolean | numeral | string =>
    cases depth with
    | zero => simp [tokens] at hdepth
    | succ depth => rfl

/-! ### Text -/

def WellFormed (v : Value) : Prop := ∀ t ∈ v.tokens, t.WellFormed

lemma spaced_cons {t : Token} (h : t.isNumeral = false) {ts : List Token} (hts : ts.IsChain Token.Spaced) :
    (t :: ts).IsChain Token.Spaced := by
  apply List.IsChain.cons hts
  intro u _ hnumeral
  simp [h] at hnumeral

lemma spaced_append_cons {ts us : List Token} {t : Token} (ht : t.closes) (hts : ts.IsChain Token.Spaced)
    (hus : (t :: us).IsChain Token.Spaced) : (ts ++ t :: us).IsChain Token.Spaced := by
  apply List.isChain_append.2
  refine ⟨hts, hus, fun _ _ u hu _ => ?_⟩
  cases hu
  exact ht

lemma spaced_separated {tss : List (List Token)} (h : ∀ ts ∈ tss, ts.IsChain Token.Spaced) :
    (separated tss).IsChain Token.Spaced := by
  induction tss with
  | nil => exact .nil
  | cons ts tss ih =>
    obtain ⟨hts, hrest⟩ := List.forall_mem_cons.1 h
    cases tss with
    | nil => exact hts
    | cons us rest => exact spaced_append_cons rfl hts (spaced_cons rfl (ih hrest))

lemma spaced_tokens (v : Value) : v.tokens.IsChain Token.Spaced := by
  induction v with
  | array vs ih =>
    have hitems : ∀ ts ∈ vs.map tokens, ts.IsChain Token.Spaced := List.forall_mem_map.2 ih
    rw [tokens, elementTokens_eq_map]
    exact spaced_cons rfl (spaced_append_cons rfl (spaced_separated hitems) (.singleton _))
  | object ms ih =>
    have hitems : ∀ ts ∈ ms.map memberToken, ts.IsChain Token.Spaced :=
      List.forall_mem_map.2 fun m hm => spaced_cons rfl (spaced_cons rfl (ih m hm))
    rw [tokens, memberTokens_eq_map]
    exact spaced_cons rfl (spaced_append_cons rfl (spaced_separated hitems) (.singleton _))
  | null | boolean | numeral | string => exact .singleton _

theorem parse?_bytes {v : Value} (h : v.WellFormed) : parse? v.bytes = some v := by
  have hlist : Token.list v.bytes = v.tokens := Token.list_flatMap_bytes h v.spaced_tokens
  have hread := v.readValue?_tokens (Nat.le_refl _) []
  rw [List.append_nil] at hread
  rw [parse?, hlist, hread]

lemma printable {v : Value} (h : v.WellFormed) : Printable v.bytes := by
  intro b hb
  obtain ⟨t, ht, hb⟩ := List.mem_flatMap.1 hb
  exact Token.printable (h t ht) b hb

/-! ### What records of the program are written as -/

lemma wellFormed_numeral {n : Numeral} (h : n.WellFormed) : (numeral n).WellFormed := by
  rintro _ (_ | ⟨_, ⟨⟩⟩)
  exact h

lemma wellFormed_natural (n : Nat) : (natural n).WellFormed := wellFormed_numeral (Numeral.wellFormed_ofNat n)

lemma wellFormed_integer (i : Int) : (integer i).WellFormed := wellFormed_numeral (Numeral.wellFormed_ofInt i)

lemma wellFormed_float (x : Float) : (float x).WellFormed := by
  rw [float]
  split
  case h_1 h => exact wellFormed_numeral (Numeral.wellFormed_ofFloat? h)
  case h_2 => simp [WellFormed, tokens, Token.WellFormed]

lemma wellFormed_word {s : String} (h : Plain (utf8 s)) : (word s).WellFormed := by
  rintro _ (_ | ⟨_, ⟨⟩⟩)
  exact h

lemma mem_separated {tss : List (List Token)} {t : Token} (h : t ∈ separated tss) :
    t = .comma ∨ ∃ ts ∈ tss, t ∈ ts := by
  induction tss with
  | nil => cases h
  | cons ts tss ih =>
    cases tss with
    | nil => exact .inr ⟨ts, List.mem_cons_self .., h⟩
    | cons us rest =>
      rw [separated_cons_cons, List.mem_append, List.mem_cons] at h
      rcases h with h | rfl | h
      · exact .inr ⟨ts, List.mem_cons_self .., h⟩
      · exact .inl rfl
      · obtain rfl | ⟨vs, hvs, hmem⟩ := ih h
        · exact .inl rfl
        · exact .inr ⟨vs, List.mem_cons_of_mem _ hvs, hmem⟩

lemma wellFormed_array {vs : List Value} (h : ∀ v ∈ vs, v.WellFormed) : (array vs).WellFormed := by
  intro t ht
  rw [tokens, elementTokens_eq_map, List.cons_append, List.mem_cons, List.mem_append,
    List.mem_singleton] at ht
  rcases ht with rfl | ht | rfl
  · trivial
  · obtain rfl | ⟨ts, hts, hmem⟩ := mem_separated ht
    · trivial
    · obtain ⟨v, hv, rfl⟩ := List.mem_map.1 hts
      exact h v hv t hmem
  · trivial

lemma wellFormed_record {members : List (String × Value)} (hkeys : ∀ key ∈ members.map Prod.fst, Plain (utf8 key))
    (hvalues : ∀ m ∈ members, m.2.WellFormed) : (record members).WellFormed := by
  intro t ht
  rw [record, tokens, memberTokens_eq_map, List.cons_append, List.mem_cons, List.mem_append, List.mem_singleton] at ht
  rcases ht with rfl | ht | rfl
  · trivial
  · obtain rfl | ⟨ts, hts, hmem⟩ := mem_separated ht
    · trivial
    · obtain ⟨_, hwritten, rfl⟩ := List.mem_map.1 hts
      obtain ⟨m, hm, rfl⟩ := List.mem_map.1 hwritten
      rw [memberToken, List.mem_cons, List.mem_cons] at hmem
      rcases hmem with rfl | rfl | hmem
      · exact hkeys _ (List.mem_map_of_mem hm)
      · trivial
      · exact hvalues _ hm t hmem
  · trivial

/-! ### Members -/

def only? {α : Type} : List α → Option α
  | [a] => some a
  | _ => none

def member? (v : Value) (key : String) : Option Value :=
  match v with
  | .object ms => only? ((ms.filter fun m => m.1 = utf8 key).map Prod.snd)
  | _ => none

def natural? : Value → Option Nat
  | .numeral n =>
    match n.number? with
    | some (.natural k) => some k
    | _ => none
  | _ => none

def integer? : Value → Option Int
  | .numeral n =>
    match n.number? with
    | some (.natural k) => some k
    | some (.negative i) => some i
    | _ => none
  | _ => none

def word? : Value → Option String
  | .string body => text? body
  | _ => none

lemma natural?_natural {n : Nat} (h : n < Numeral.wordLimit) : (natural n).natural? = some n := by
  rw [natural, natural?, Numeral.number?_ofNat h]

lemma integer?_integer {i : Int} (hlow : -(Nat.pow 2 63 : Nat) ≤ i) (hhigh : i < (Nat.pow 2 63 : Nat)) :
    (integer i).integer? = some i := by
  rw [integer, integer?]
  by_cases hneg : i < 0
  · rw [Numeral.number?_ofInt_of_neg hneg hlow]
  · obtain ⟨n, rfl⟩ := Int.eq_ofNat_of_zero_le (Int.not_lt.1 hneg)
    have hword : n < Numeral.wordLimit := Nat.lt_of_lt_of_le (Int.ofNat_lt.1 hhigh) (by decide)
    rw [Numeral.ofInt_natCast, Numeral.number?_ofNat hword]

lemma word?_word {s : String} (h : Plain (utf8 s)) : (word s).word? = some s := text?_of_plain h

lemma member?_record (members : List (String × Value)) (key : String) :
    (record members).member? key = only? ((members.filter fun m => m.1 = key).map Prod.snd) := by
  simp [record, member?, List.filter_map, Function.comp_def, utf8_inj]

end Value

end DecodeBench.Json
