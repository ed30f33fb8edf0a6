import DecodeBench.Proofs.Plan.Failures
import DecodeBench.Proofs.Plan.Steps

/-! Plans that differ in nothing but what they make of the time. On testbeds that answer alike such
plans make the same calls and come to the same end. -/

namespace DecodeBench

namespace Plan

variable {α β α' β' : Type} {R : α → α' → Prop} {S : β → β' → Prop}

/-- The time may be told differently to the two plans; everything else they ask for and hear in common. -/
inductive Twin (R : α → α' → Prop) : Plan α → Plan α' → Prop
  | done {a : α} {a' : α'} (h : R a a') : Twin R (.done a) (.done a')
  | now {next : Nat → Plan α} {next' : Nat → Plan α'} (h : ∀ t t', Twin R (next t) (next' t')) :
      Twin R (.ask .now next) (.ask .now next')
  | ask {c : Call} {next : c.Answer → Plan α} {next' : c.Answer → Plan α'} (other : c ≠ .now)
      (h : ∀ a, Twin R (next a) (next' a)) : Twin R (.ask c next) (.ask c next')

lemma Twin.bind {p : Plan α} {p' : Plan α'} {f : α → Plan β} {f' : α' → Plan β'} (h : p.Twin R p')
    (hf : ∀ a a', R a a' → (f a).Twin S (f' a')) : (p.bind f).Twin S (p'.bind f') := by
  induction h with
  | done h => exact hf _ _ h
  | now _ ih => exact .now ih
  | ask other _ ih => exact .ask other ih

lemma twin_submit (ws : List Window) (submitted : Nat) : (submit ws submitted).Twin Eq (submit ws submitted) := by
  induction ws generalizing submitted with
  | nil => exact .done rfl
  | cons w ws ih =>
    refine .ask nofun fun status => ?_
    split
    · exact ih (submitted + 1)
    · exact .done rfl

end Plan

structure Mirrors {σ τ : Type} [Testbed σ] [Testbed τ] (S : σ → τ → Prop) : Prop where
  answer : ∀ {s t}, S s t → ∀ c, c ≠ .now → (Testbed.answer c s).1 = (Testbed.answer c t).1
  perform : ∀ {s t}, S s t → ∀ c, S (Testbed.perform s c) (Testbed.perform t c)

section Runs

variable {α α' σ τ : Type} [Testbed σ] [Testbed τ] {S : σ → τ → Prop} {R : α → α' → Prop} {p : Plan α} {p' : Plan α'}

lemma Plan.Twin.run (h : p.Twin R p') (hS : Mirrors S) {s : σ} {t : τ} (hs : S s t) (rs rs' : Array Record) :
    R (p.run s rs).1 (p'.run t rs').1 ∧ S (p.run s rs).2.1 (p'.run t rs').2.1 := by
  induction h generalizing s t with
  | done h => exact ⟨h, hs⟩
  | now _ ih => exact ih _ _ (hS.perform hs .now)
  | @ask c next next' other _ ih =>
    have hrun : (Plan.ask c next').run t rs' = (next' (Testbed.answer c s).1).run (Testbed.perform t c) rs' := by
      rw [hS.answer hs c other]
      rfl
    rw [hrun]
    exact ih _ (hS.perform hs c)

end Runs

namespace Step

variable {α α' β β' : Type}

def Timeless (x : Step α) : Prop := ∀ b, (x.plan b).Twin Eq (x.plan b)

lemma timeless_pure (a : α) : (pure a : Step α).Timeless := fun _ => .done rfl

lemma timeless_bind {x : Step α} {f : α → Step β} (h : x.Timeless) (hf : ∀ a, (f a).Timeless) : (x >>= f).Timeless := by
  intro b
  rw [plan_bind]
  refine (h b).bind fun r r' hr => ?_
  subst hr
  rcases r with ⟨e | a, b'⟩
  · exact .done rfl
  · exact hf a b'

lemma timeless_call {c : Call} (other : c ≠ .now) : (call c).Timeless := fun _ => .ask other fun _ => .done rfl

lemma timeless_clearBatch : clearBatch.Timeless := fun _ => .done rfl

lemma timeless_wantLast : wantLast.Timeless := fun _ => .done rfl

lemma timeless_fill (request : Nat → Request) (count : Nat) : (fill request count).Timeless := fun _ => .done rfl

lemma timeless_submitBatch (limit : Nat) : (submitBatch limit).Timeless := by
  intro b
  have hchunks : (decodeInChunks b.window limit).Twin Eq (decodeInChunks b.window limit) := by
    rw [decodeInChunks]
    split
    · exact .done rfl
    · exact Plan.twin_submit _ 0
  rw [plan_submitBatch]
  refine hchunks.bind fun r r' hr => ?_
  subst hr
  exact .done rfl

inductive SameEnd (Q : α → α' → Prop) : Except Failure α × Batch → Except Failure α' × Batch → Prop
  | ok {a : α} {a' : α'} {b : Batch} (h : Q a a') : SameEnd Q (.ok a, b) (.ok a', b)
  | error {e : Failure} {b : Batch} : SameEnd Q (.error e, b) (.error e, b)

lemma SameEnd.answers {Q : α → α' → Prop} {r : Except Failure α × Batch} {r' : Except Failure α' × Batch}
    (h : SameEnd Q r r') :
    (∃ a a', r.1 = .ok a ∧ r'.1 = .ok a' ∧ Q a a') ∨ ∃ e, r.1 = .error e ∧ r'.1 = .error e := by
  cases h with
  | ok h => exact .inl ⟨_, _, rfl, rfl, h⟩
  | error => exact .inr ⟨_, rfl, rfl⟩

def Twin (Q : α → α' → Prop) (x : Step α) (y : Step α') : Prop := ∀ b, (x.plan b).Twin (SameEnd Q) (y.plan b)

lemma twin_pure {Q : α → α' → Prop} {a : α} {a' : α'} (h : Q a a') : (pure a : Step α).Twin Q (pure a' : Step α') :=
  fun _ => .done (.ok h)

variable {Q : β → β' → Prop}

lemma twin_bind {x : Step α} {f : α → Step β} {g : α → Step β'} (h : x.Timeless) (hf : ∀ a, (f a).Twin Q (g a)) :
    (x >>= f).Twin Q (x >>= g) := by
  intro b
  rw [plan_bind, plan_bind]
  refine (h b).bind fun r r' hr => ?_
  subst hr
  rcases r with ⟨e | a, b'⟩
  · exact .done .error
  · exact hf a b'

lemma twin_now {f : Nat → Step β} {g : Nat → Step β'} (hf : ∀ t t', (f t).Twin Q (g t')) :
    (call .now >>= f).Twin Q (call .now >>= g) := fun b => .now fun t t' => hf t t' b

end Step

end DecodeBench
