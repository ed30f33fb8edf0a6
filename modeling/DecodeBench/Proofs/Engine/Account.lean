import DecodeBench.Proofs.Engine.Demand
import DecodeBench.Proofs.Plan.Twins

/-! The engine that its user has in mind: a ledger kept on its terms, with no cells to search and
nothing to compute. Engines keep such an account, each from the counts that it started with. -/

namespace DecodeBench.Transformer

open Cache

structure Account where
  terms : Terms
  ledger : Ledger := {}

instance : Engine Account where
  decode w a := (a.ledger.status a.terms w.toList, { a with ledger := a.ledger.perform a.terms (.decode w) })
  clear a := { a with ledger := a.ledger.perform a.terms .clear }
  share source target span a := { a with ledger := a.ledger.perform a.terms (.share source target span) }

def Account.cells (a : Account) : Array Cell :=
  (a.ledger.entries ++ List.replicate (a.terms.limits.cells - a.ledger.entries.length) Cell.empty).toArray

def Statistics.add (s s' : Statistics) : Statistics where
  calls := s.calls + s'.calls
  failed := s.failed + s'.failed
  tokens := s.tokens + s'.tokens
  outputs := s.outputs + s'.outputs

structure Terms.Alike (t t' : Terms) : Prop where
  dimensions : t.dimensions = t'.dimensions
  limits : t.limits = t'.limits
  completes : t.device.completes t.format = t'.device.completes t'.format

def Terms.of (d : Model.Dimensions) (limits : Limits) (completes : Work → Stage → Bool) : Terms :=
  ⟨d, limits, ⟨fun _ => completes⟩, .binary32⟩

variable {t t' : Terms} {l l' : Ledger}

lemma Terms.Alike.status (ht : t.Alike t') (hl : l.entries = l'.entries) (rs : List Request) :
    l.status t rs = l'.status t' rs := by
  have hvalid : t.Valid rs ↔ t'.Valid rs := by
    rw [Terms.Valid, Terms.Valid, ht.dimensions, ht.limits]
  have hcompletes : ∀ w, t.Completes w ↔ t'.Completes w := fun w => by
    rw [Terms.Completes, Terms.Completes, ht.dimensions, ht.completes]
  have hwork : l.work rs = l'.work rs := by
    rw [Ledger.work, Ledger.work, hl]
  simp only [Ledger.status, hvalid, ht.limits, hcompletes, hwork, hl]

structure Ledger.Extends (start : Statistics) (l l' : Ledger) : Prop where
  entries : l.entries = l'.entries
  statistics : l.statistics = start.add l'.statistics

lemma Ledger.Extends.perform {start : Statistics} (h : l.Extends start l') (ht : t.Alike t') (c : Call) :
    (l.perform t c).Extends start (l'.perform t' c) := by
  cases c with
  | decode w =>
    rw [Ledger.perform, Ledger.perform, ht.status h.entries]
    split
    · refine ⟨by rw [accept, accept, h.entries], ?_⟩
      rw [accept, accept, h.statistics]
      simp only [Statistics.add, Nat.add_assoc]
    · refine ⟨h.entries, ?_⟩
      rw [refuse, refuse, h.statistics]
      simp only [Statistics.add, Nat.add_assoc]
  | clear => exact ⟨rfl, h.statistics⟩
  | share source target span => exact ⟨by rw [Ledger.perform, Ledger.perform, h.entries], h.statistics⟩
  | now => exact h

namespace State

def Keeps (start : Statistics) (s : State) (a : Account) : Prop :=
  ∃ t l, s.Balanced t l ∧ t.Alike a.terms ∧ l.Extends start a.ledger

variable {start : Statistics} {s : State} {a : Account}

lemma Keeps.cells (h : s.Keeps start a) : s.table.cells = a.cells := by
  obtain ⟨t, l, hs, ht, hl⟩ := h
  apply Array.toList_inj.1
  rw [hs.table.cells, hs.size, ht.limits, hl.entries, Account.cells]

lemma Keeps.used (h : s.Keeps start a) : s.table.used = a.ledger.entries.length := by
  obtain ⟨t, l, hs, -, hl⟩ := h
  rw [hs.table.used, hl.entries]

lemma Keeps.statistics (h : s.Keeps start a) : s.statistics = start.add a.ledger.statistics := by
  obtain ⟨t, l, hs, -, hl⟩ := h
  rw [hs.statistics, hl.statistics]

lemma Balanced.keeps_clear (h : s.Balanced t l) (ht : t.Alike t') : (Engine.clear s).Keeps s.statistics ⟨t', {}⟩ :=
  ⟨t, _, h.clear, ht, rfl, h.statistics.symm⟩

/-- The engines of these dimensions and limits, in any format and on any device that together complete this work, after
whatever calls. -/
inductive Reachable (d : Model.Dimensions) (limits : Limits) (completes : Work → Stage → Bool) : State → Prop
  | intro {device : Device} {format : NumberFormat} {fresh : State} (support : device.completes format = completes)
      (created : create d limits device format = .ok fresh) (history : List Call) :
      Reachable d limits completes (Engine.after fresh history)

lemma Reachable.exists_ledger {d : Model.Dimensions} {limits : Limits} {completes : Work → Stage → Bool}
    (h : s.Reachable d limits completes) : ∃ t l, s.Balanced t l ∧ t.Alike (.of d limits completes) := by
  obtain ⟨support, created, history⟩ := h
  exact ⟨_, _, (create_balanced created).after history, rfl, rfl, support⟩

lemma keeps_mirrors (start : Statistics) {κ κ' : Type} [Clock κ] [Clock κ'] :
    Mirrors fun (s : Rig State κ) (a : Rig Account κ') => s.engine.Keeps start a.engine where
  answer := by
    rintro s a ⟨t, l, hs, ht, hl⟩ c other
    cases c with
    | decode w => exact ((hs.decode w.toList).1).trans (ht.status hl.entries w.toList)
    | clear => rfl
    | share => rfl
    | now => exact absurd rfl other
  perform := by
    rintro s a ⟨t, l, hs, ht, hl⟩ c
    have haccount : (Testbed.perform a c).engine = { a.engine with ledger := a.engine.ledger.perform a.engine.terms c } := by
      cases c <;> rfl
    refine ⟨t, l.perform t c, hs.perform_engine c, ?_, ?_⟩
    · rw [haccount]
      exact ht
    · rw [haccount]
      exact hl.perform ht c

end State

end DecodeBench.Transformer
