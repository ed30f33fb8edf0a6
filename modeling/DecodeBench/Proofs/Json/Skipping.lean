import DecodeBench.Json.Skip
import DecodeBench.Proofs.Json.Reading

/-! A value that nobody asked for is passed over as a whole, however deep it is nested. -/

namespace DecodeBench.Json

open Value (separated)

def Progress.resume : Progress → List Token → Except ReadError (List Token)
  | finished, ts => .ok ts
  | within expect containers, ts => skip expect containers ts

open Progress (ended resume step?)

section Containers

variable {containers : List Container} {c : Container} {close : Token}

lemma skip_cons {expect : Expect} {p : Progress} {t : Token} (h : step? expect containers t = some p)
    (ts : List Token) : skip expect containers (t :: ts) = p.resume ts := by
  rw [skip, h]
  cases p <;> rfl

/-- A container between whose brackets items of one sort stand: at first one of them or the bracket
that closes it may come, and after a comma another one has to. -/
structure Bracketed (containers : List Container) (c : Container) (close : Token) (first item : Expect) : Prop where
  first_close : step? first (c :: containers) close = some (ended containers)
  first_item : ∀ t, t ≠ close → step? first (c :: containers) t = step? item (c :: containers) t
  next_close : step? .separatorOrEnd (c :: containers) close = some (ended containers)
  next_item : step? .separatorOrEnd (c :: containers) .comma = some (.within item (c :: containers))

variable {first item : Expect}

lemma bracketed_array : Bracketed containers .array .closeBracket .elementOrEnd .value :=
  ⟨rfl, fun _ h => if_neg h, rfl, rfl⟩

lemma bracketed_object : Bracketed containers .object .closeBrace .memberOrEnd .member :=
  ⟨rfl, fun _ h => if_neg h, rfl, rfl⟩

variable {α : Type} {write : α → List Token} {xs : List α}

lemma Bracketed.skip_items (hc : Bracketed containers c close first item) (hne : xs ≠ [])
    (h : ∀ x ∈ xs, ∀ rest, skip item (c :: containers) (write x ++ rest) = skip .separatorOrEnd (c :: containers) rest)
    (rest : List Token) : skip item (c :: containers) (separated (xs.map write) ++ close :: rest) =
    (ended containers).resume rest := by
  induction xs with
  | nil => exact absurd rfl hne
  | cons x xs ih =>
    obtain ⟨hx, hxs⟩ := List.forall_mem_cons.1 h
    cases xs with
    | nil => rw [List.map_singleton, separated, hx, skip_cons hc.next_close]
    | cons y ys =>
      have hrest := ih (List.cons_ne_nil y ys) hxs
      rw [List.map_cons] at hrest
      rw [List.map_cons, List.map_cons, Value.separated_cons_cons, List.append_assoc, List.cons_append, hx,
        skip_cons hc.next_item]
      exact hrest

lemma Bracketed.skip_container (hc : Bracketed containers c close first item)
    (hstart : ∀ x ∈ xs, ∃ t ts, write x = t :: ts ∧ t ≠ close)
    (h : ∀ x ∈ xs, ∀ rest, skip item (c :: containers) (write x ++ rest) = skip .separatorOrEnd (c :: containers) rest)
    (rest : List Token) : skip first (c :: containers) (separated (xs.map write) ++ close :: rest) =
    (ended containers).resume rest := by
  cases xs with
  | nil => exact skip_cons hc.first_close rest
  | cons x xs =>
    obtain ⟨t, ts, hx, ht⟩ := hstart x (List.mem_cons_self ..)
    have hitems := hc.skip_items (List.cons_ne_nil x xs) h rest
    obtain ⟨us, htokens⟩ : ∃ us, separated ((x :: xs).map write) = t :: us := by
      cases xs <;> simp [separated, hx]
    rw [htokens, List.cons_append] at hitems ⊢
    rw [← hitems, skip, skip, hc.first_item t ht]

end Containers

lemma skip_tokens (v : Value) (containers : List Container) (rest : List Token) :
    skip .value containers (v.tokens ++ rest) = (ended containers).resume rest := by
  induction v generalizing containers rest with
  | array vs ih =>
    rw [Value.tokens, Value.elementTokens_eq_map, List.cons_append, List.cons_append, List.append_assoc,
      List.singleton_append, skip_cons rfl]
    exact bracketed_array.skip_container (fun v _ => v.tokens_eq_cons) (fun v hv => ih v hv _) rest
  | object ms ih =>
    have hmember : ∀ m ∈ ms, ∀ rest, skip .member (.object :: containers) (Value.memberToken m ++ rest) =
        skip .separatorOrEnd (.object :: containers) rest := by
      intro m hm rest
      rw [Value.memberToken, List.cons_append, List.cons_append, skip_cons rfl, resume, skip_cons rfl, resume]
      exact ih m hm _ rest
    rw [Value.tokens, Value.memberTokens_eq_map, List.cons_append, List.cons_append, List.append_assoc,
      List.singleton_append, skip_cons rfl]
    exact bracketed_object.skip_container (fun m _ => Value.memberToken_eq_cons m) hmember rest
  | null | boolean | numeral | string => exact skip_cons rfl rest

theorem skipValue_tokens (v : Value) (rest : List Token) : skipValue (v.tokens ++ rest) = .ok rest :=
  skip_tokens v [] rest

end DecodeBench.Json
