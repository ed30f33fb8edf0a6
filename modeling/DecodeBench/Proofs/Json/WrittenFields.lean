import DecodeBench.Proofs.Json.Members

/-! What is written for a field is read back if the field can hold it, and refused if not. -/

namespace DecodeBench.Json

open Value (separated)

structure ReadsIf {α : Type} (read : List Token → Except ReadError (α × List Token)) (fits : Prop) (ts : List Token)
    (x : α) : Prop where
  reads : fits → ∀ rest, read (ts ++ rest) = .ok (x, rest)
  refuses : ¬fits → ∃ e, ∀ rest, read (ts ++ rest) = .error e

lemma ReadsIf.parse_eq_ok_iff {α : Type} {read : List Token → Except ReadError (α × List Token)} {fits : Prop}
    {v : Value} {x y : α} (h : ReadsIf read fits v.tokens x) (hv : v.WellFormed) :
    parse read v.bytes = .ok y ↔ fits ∧ y = x := by
  have hlist : Token.list v.bytes = v.tokens ++ [] := by
    rw [List.append_nil]
    exact Token.list_flatMap_bytes hv v.spaced_tokens
  rw [parse, hlist]
  by_cases hfits : fits
  · rw [h.reads hfits]
    simp [hfits, eq_comm]
  · obtain ⟨e, he⟩ := h.refuses hfits
    rw [he]
    simp [hfits]

lemma ReadsIf.and_then {α β : Type} {read : List Token → Except ReadError (α × List Token)}
    {next : List Token → Except ReadError (β × List Token)} {p q : Prop} {ts us : List Token} {x : α} {y : β}
    (hx : ReadsIf read p ts x) (hy : ReadsIf next q us y) :
    ReadsIf (fun ts => do
      let (x, ts) ← read ts
      let (y, ts) ← next ts
      return ((x, y), ts)) (p ∧ q) (ts ++ us) (x, y) where
  reads h rest := by
    rw [List.append_assoc]
    simp only [hx.reads h.1, hy.reads h.2, bind, Except.bind]
    rfl
  refuses h := by
    by_cases hp : p
    · obtain ⟨e, he⟩ := hy.refuses fun hq => h ⟨hp, hq⟩
      exact ⟨e, fun rest => by simp only [List.append_assoc, hx.reads hp, he, bind, Except.bind]⟩
    · obtain ⟨e, he⟩ := hx.refuses hp
      exact ⟨e, fun rest => by simp only [List.append_assoc, he, bind, Except.bind]⟩

lemma ReadsIf.congr {α : Type} {read read' : List Token → Except ReadError (α × List Token)} {p : Prop}
    {ts ts' : List Token} {x : α} (h : ReadsIf read p ts x)
    (heq : ∀ rest, read' (ts' ++ rest) = read (ts ++ rest)) : ReadsIf read' p ts' x where
  reads hp rest := (heq rest).trans (h.reads hp rest)
  refuses hp := (h.refuses hp).imp fun _ he rest => (heq rest).trans (he rest)

namespace Kind

def Fits : (k : Kind) → k.Value → Prop
  | .count limit _, n => n < limit
  | .flag, _ => True
  | .counts, ns => ∀ n ∈ ns, n < Nat.pow 2 64
  | .choice _, _ => True

def Sound : Kind → Prop
  | .count limit _ => limit ≤ Numeral.wordLimit
  | .flag | .counts => True
  | .choice names => names.Nodup ∧ ∀ s ∈ names, Plain (utf8 s)

instance (k : Kind) : Decidable k.Sound :=
  match k with
  | .count limit _ => inferInstanceAs (Decidable (limit ≤ Numeral.wordLimit))
  | .flag | .counts => inferInstanceAs (Decidable True)
  | .choice names => inferInstanceAs (Decidable (names.Nodup ∧ ∀ s ∈ names, Plain (utf8 s)))

lemma readsIf_count {limit : Nat} (name : String) (hlimit : limit ≤ Numeral.wordLimit) (n : Nat) :
    ReadsIf (readCount limit name) (n < limit) (Value.natural n).tokens n where
  reads h rest := by
    have hnumber := Numeral.number?_ofNat (Nat.lt_of_lt_of_le h hlimit)
    simp only [Value.natural, Value.tokens, List.singleton_append, readCount, hnumber]
    exact if_pos h
  refuses h := by
    simp only [Value.natural, Value.tokens, List.singleton_append, readCount]
    by_cases hword : n < Numeral.wordLimit
    · exact ⟨.invalidValue n name, fun _ => by simp only [Numeral.number?_ofNat hword, if_neg h]⟩
    · obtain hnone | ⟨x, hreal⟩ := Numeral.number?_ofNat_of_le (Nat.not_lt.1 hword)
      · exact ⟨.malformed, fun _ => by simp only [hnone]⟩
      · exact ⟨.invalidType (.real x) name, fun _ => by simp only [hreal]⟩

def elementsRest (ns : List Nat) : List Token := separated (ns.map fun n => (Value.natural n).tokens) ++ [.closeBracket]

lemma readElements_last {n : Nat} {p : Nat × List Token}
    (h : readCount (Nat.pow 2 64) "usize" (Value.natural n).tokens = .ok p) (rest : List Token) :
    readElements (elementsRest [n] ++ rest) = .ok ([p.1], rest) := by
  have htokens : elementsRest [n] ++ rest = .numeral (.ofNat n) :: .closeBracket :: rest := rfl
  have hcount : readCount (Nat.pow 2 64) "usize" [.numeral (.ofNat n)] = .ok p := h
  rw [htokens, readElements.eq_def]
  simp only [hcount]

lemma readElements_more {n m : Nat} {ns : List Nat} {p : Nat × List Token}
    (h : readCount (Nat.pow 2 64) "usize" (Value.natural n).tokens = .ok p) (rest : List Token) :
    readElements (elementsRest (n :: m :: ns) ++ rest) =
    (readElements (elementsRest (m :: ns) ++ rest)).map fun (ns, ts) => (p.1 :: ns, ts) := by
  have htokens : elementsRest (n :: m :: ns) ++ rest =
    .numeral (.ofNat n) :: .comma :: (elementsRest (m :: ns) ++ rest) := rfl
  have hcount : readCount (Nat.pow 2 64) "usize" [.numeral (.ofNat n)] = .ok p := h
  rw [htokens, readElements.eq_def]
  simp only [hcount]

lemma readElements_error {n : Nat} {ns : List Nat} {e : ReadError}
    (h : readCount (Nat.pow 2 64) "usize" (Value.natural n).tokens = .error e) (rest : List Token) :
    readElements (elementsRest (n :: ns) ++ rest) = .error e := by
  obtain ⟨us, hus⟩ : ∃ us, elementsRest (n :: ns) ++ rest = .numeral (.ofNat n) :: us := by
    cases ns <;> exact ⟨_, rfl⟩
  have hcount : readCount (Nat.pow 2 64) "usize" [.numeral (.ofNat n)] = .error e := h
  rw [hus, readElements.eq_def]
  simp only [hcount]

lemma readsIf_elements {ns : List Nat} (hne : ns ≠ []) :
    ReadsIf readElements (∀ n ∈ ns, n < Nat.pow 2 64) (elementsRest ns) ns := by
  induction ns with
  | nil => exact absurd rfl hne
  | cons n ns ih =>
    have hcount := readsIf_count "usize" (Nat.le_refl (Nat.pow 2 64)) n
    by_cases hn : n < Nat.pow 2 64
    · have hread := hcount.reads hn []
      rw [List.append_nil] at hread
      cases ns with
      | nil =>
        refine ⟨fun _ rest => readElements_last hread rest, fun h => absurd ?_ h⟩
        exact List.forall_mem_singleton.2 hn
      | cons m ns =>
        have hns := ih (List.cons_ne_nil m ns)
        refine ⟨fun h rest => ?_, fun h => ?_⟩
        · rw [readElements_more hread, hns.reads (List.forall_mem_cons.1 h).2]
          rfl
        · obtain ⟨e, he⟩ := hns.refuses fun hall => h (List.forall_mem_cons.2 ⟨hn, hall⟩)
          refine ⟨e, fun rest => ?_⟩
          rw [readElements_more hread, he]
          rfl
    · obtain ⟨e, he⟩ := hcount.refuses hn
      have hread := he []
      rw [List.append_nil] at hread
      exact ⟨fun h => absurd (List.forall_mem_cons.1 h).1 hn, fun _ => ⟨e, readElements_error hread⟩⟩

lemma readsIf_counts (ns : List Nat) :
    ReadsIf readCounts (∀ n ∈ ns, n < Nat.pow 2 64) (Value.array (ns.map .natural)).tokens ns := by
  have htokens : (Value.array (ns.map .natural)).tokens = .openBracket :: elementsRest ns := by
    rw [Value.tokens, Value.elementTokens_eq_map, List.map_map]
    rfl
  rw [htokens]
  cases ns with
  | nil => exact ⟨fun _ rest => rfl, fun h => absurd (List.forall_mem_nil _) h⟩
  | cons n ns =>
    have hstart (rest : List Token) : readCounts (.openBracket :: elementsRest (n :: ns) ++ rest) =
        readElements (elementsRest (n :: ns) ++ rest) := by
      cases ns <;> rfl
    have hns := readsIf_elements (List.cons_ne_nil n ns)
    refine ⟨fun h rest => (hstart rest).trans (hns.reads h rest), fun h => ?_⟩
    obtain ⟨e, he⟩ := hns.refuses h
    exact ⟨e, fun rest => (hstart rest).trans (he rest)⟩

lemma readsIf_choice {names : List String} (hnodup : names.Nodup) (hplain : ∀ s ∈ names, Plain (utf8 s))
    (i : Fin names.length) : ReadsIf (readChoice names) True (Value.word names[i]).tokens i where
  reads _ rest := by
    have htext : text? (utf8 names[i]) = some names[i] := text?_of_plain (hplain _ (List.getElem_mem i.isLt))
    have hfound : names.finIdxOf? names[i] = some i := by
      rw [List.finIdxOf?_eq_some_iff]
      refine ⟨rfl, fun j hj heq => ?_⟩
      have hij := (List.getElem_inj hnodup).1 heq
      omega
    have hname : readName names (utf8 names[i]) = .ok i := by
      simp only [readName, htext, findName, hfound]
    simp only [Value.word, Value.tokens, List.singleton_append, readChoice, hname]
    rfl
  refuses h := absurd trivial h

theorem readsIf_write {k : Kind} (hk : k.Sound) (x : k.Value) : ReadsIf k.read (k.Fits x) (k.write x).tokens x := by
  cases k with
  | count limit name => exact readsIf_count name hk x
  | flag => exact ⟨fun _ _ => rfl, fun h => absurd trivial h⟩
  | counts => exact readsIf_counts x
  | choice names => exact readsIf_choice hk.1 hk.2 x

lemma wellFormed_write {k : Kind} (hk : k.Sound) (x : k.Value) : (k.write x).WellFormed := by
  cases k with
  | count limit name => exact Value.wellFormed_natural x
  | flag =>
    intro t ht
    cases List.mem_singleton.1 ht
    trivial
  | counts => exact Value.wellFormed_array (List.forall_mem_map.2 fun n _ => Value.wellFormed_natural n)
  | choice names => exact Value.wellFormed_word (hk.2 _ (List.getElem_mem x.isLt))

end Kind

end DecodeBench.Json
