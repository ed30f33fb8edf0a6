import DecodeBench.Proofs.Engine.Demand

/-! What calls add to the cells and the counters of an engine if none of them fails. -/

namespace DecodeBench

open Testbed

def Call.isDecode : Call → Bool
  | .decode _ => true
  | .clear | .share _ _ _ | .now => false

def Call.Adds : Call → Prop
  | .decode _ | .now => True
  | .clear | .share _ _ _ => False

lemma adds_decodes (ws : List Window) : ∀ c ∈ ws.map Call.decode, c.Adds := by
  intro c hc
  obtain ⟨_, -, rfl⟩ := List.mem_map.1 hc
  trivial

namespace Transformer

namespace Statistics

def plus (s : Statistics) (cs : List Call) : Statistics where
  calls := s.calls + cs.countP Call.isDecode
  failed := s.failed
  tokens := s.tokens + (decoded cs).length
  outputs := s.outputs + (decoded cs).countP (·.wantsLogits)

lemma plus_cons (s : Statistics) (c : Call) (cs : List Call) : s.plus (c :: cs) = (s.plus [c]).plus cs := by
  simp only [plus, List.countP_cons, List.countP_nil, decoded_cons, decoded_nil, List.append_nil, List.length_append,
    List.countP_append]
  congr 1 <;> omega

end Statistics

namespace State.Balanced

variable {t : Terms} {κ : Type} [Clock κ] {σ : Rig State κ} {l : Ledger}

lemma statistics_of_no_failure (h : σ.engine.Balanced t l) {cs : List Call} (hf : firstFailure? σ cs = none) :
    (Testbed.after σ cs).engine.statistics = σ.engine.statistics.plus cs := by
  induction cs generalizing σ l with
  | nil => rfl
  | cons c cs ih =>
    rw [firstFailure?, Option.or_eq_none_iff] at hf
    have hstep : (Testbed.perform σ c).engine.statistics = σ.engine.statistics.plus [c] := by
      rw [(h.perform_engine c).statistics, h.statistics]
      cases c with
      | decode w =>
        rw [Ledger.perform, if_pos (h.status_of_no_failure hf.1)]
        simp [Ledger.accept, Statistics.plus, Call.isDecode, Call.requests]
      | clear => rfl
      | share => rfl
      | now => rfl
    rw [after_cons, ih (h.perform_engine c) hf.2, hstep, ← Statistics.plus_cons]

lemma entries_after (h : σ.engine.Balanced t l) {cs : List Call} (hadds : ∀ c ∈ cs, c.Adds)
    (hok : firstFailure? σ cs = none) : (l.after t cs).entries = l.entries ++ (decoded cs).map entry := by
  induction cs generalizing σ l with
  | nil => simp
  | cons c cs ih =>
    obtain ⟨hc, hcs⟩ := List.forall_mem_cons.1 hadds
    obtain ⟨hfirst, hrest⟩ := Option.or_eq_none_iff.1 hok
    rw [Ledger.after_cons, ih (h.perform_engine c) hcs hrest, decoded_cons, List.map_append, ← List.append_assoc]
    congr 1
    cases c with
    | decode w =>
      rw [Ledger.perform, if_pos (h.status_of_no_failure hfirst)]
      rfl
    | now => exact (List.append_nil _).symm
    | clear => exact hc.elim
    | share => exact hc.elim

lemma firstFailure?_flatten (h : σ.engine.Balanced t l) {series : List (List Call)}
    (hs : ∀ cs ∈ series, ∀ (σ : Rig State κ) l, σ.engine.Balanced t l → firstFailure? σ cs = none) :
    firstFailure? σ series.flatten = none := by
  induction series generalizing σ l with
  | nil => rfl
  | cons cs series ih =>
    obtain ⟨hcs, hrest⟩ := List.forall_mem_cons.1 hs
    rw [List.flatten_cons, firstFailure?_append, hcs σ l h, Option.none_or]
    exact ih (h.after_engine cs) hrest

end State.Balanced

end Transformer

end DecodeBench
