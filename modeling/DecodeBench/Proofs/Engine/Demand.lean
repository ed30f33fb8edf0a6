import DecodeBench.Proofs.Batch.WindowLists
import DecodeBench.Proofs.Engine.Ledger
import DecodeBench.Proofs.Plan.Failures
import DecodeBench.Transformer.Processor

/-! Calls of which none clears the cache: the engine answers all of them well exactly if it has cells
for all that they decode. -/

namespace DecodeBench.Transformer

open Testbed

/-- A call that an engine on these terms carries out if it has enough free cells, and that frees none. -/
structure Terms.Serves (t : Terms) (c : Call) : Prop where
  valid : ∀ w, c = .decode w → t.Valid w.toList
  noClear : c ≠ .clear

def Terms.Takes (t : Terms) (r : Request) : Prop :=
  r.token < t.dimensions.vocabulary ∧ r.sequences ≠ [] ∧ ∀ id ∈ r.sequences, id < t.limits.sequences

lemma Terms.computes_processor (d : Model.Dimensions) (limits : Limits) :
    (⟨d, limits, processor, .binary32⟩ : Terms).Computes := fun _ _ stage _ => by
  cases stage <;> rfl

/-- The device completes all work that is posed to it, or none. -/
def Terms.Steady (t : Terms) : Prop := ∀ w w', t.Poses w → t.Poses w' → t.Completes w → t.Completes w'

/-- The first projection tells: without products it is refused, and with them no stage is. -/
lemma Terms.steady_processor {d : Model.Dimensions} (hd : d.fault? = none) (limits : Limits) (format : Cache.NumberFormat) :
    (⟨d, limits, processor, format⟩ : Terms).Steady := by
  intro w w' _ _ hw
  have hlayers : d.layers ≠ 0 := by
    rw [Model.Dimensions.fault?] at hd
    split_ifs at hd
    omega
  have hproject : .project 0 ∈ w.stages d.layers := by
    obtain ⟨count, hcount⟩ := Nat.exists_eq_succ_of_ne_zero hlayers
    have hsucc : layerStages 0 (count + 1) = .project 0 :: .attend 0 :: layerStages 1 count := rfl
    simp [Work.stages, Work.passStages, hcount, hsucc]
  have hfirst := hw _ hproject
  intro stage _
  cases format <;> cases stage <;> first | rfl | cases hfirst

lemma Terms.serves_chunks {t : Terms} {w : Window} (hw : w.WellFormed) {limit : Nat} (positive : 0 < limit)
    (hlimit : limit ≤ t.limits.batch) (htakes : ∀ r ∈ w.toList, t.Takes r) :
    ∀ c ∈ (w.chunks limit).map .decode, t.Serves c := by
  intro c hc
  obtain ⟨chunk, hchunk, rfl⟩ := List.mem_map.1 hc
  obtain ⟨hne, hle, hsub⟩ := Window.mem_chunks hw positive hchunk
  refine ⟨fun w' hw' => ?_, nofun⟩
  cases hw'
  exact ⟨hne, Nat.le_trans hle hlimit, fun r hr => htakes r (hsub r hr)⟩

namespace Ledger

variable {t : Terms} {l : Ledger}

lemma status_of_valid (hc : t.Computes) {rs : List Request} (hv : t.Valid rs) :
    l.status t rs = if l.entries.length + rs.length ≤ t.limits.cells then 0 else 1 := by
  rw [status, if_pos hv]
  by_cases hn : t.limits.cells < l.entries.length + rs.length
  · rw [if_pos hn, if_neg (Nat.not_le.2 hn)]
    rfl
  · have hfits := Nat.le_of_not_lt hn
    rw [if_neg hn, if_pos (hc _ (poses_work hv hfits)), if_pos hfits]

lemma perform_of_fits (hc : t.Computes) {c : Call} (h : t.Serves c)
    (hn : l.entries.length + c.requests.length ≤ t.limits.cells) :
    (l.perform t c).entries.length = l.entries.length + c.requests.length ∧
      (l.perform t c).statistics.failed = l.statistics.failed := by
  cases c with
  | decode w =>
    have hstatus : l.status t w.toList = 0 := by
      rw [status_of_valid hc (h.valid w rfl)]
      exact if_pos hn
    rw [perform, if_pos hstatus]
    exact ⟨by simp [accept, Call.requests], rfl⟩
  | clear => exact absurd rfl h.noClear
  | share source target span => exact ⟨by simp [perform, Call.requests], rfl⟩
  | now => exact ⟨rfl, rfl⟩

lemma after_of_fits (hc : t.Computes) {cs : List Call} (h : ∀ c ∈ cs, t.Serves c)
    (hn : l.entries.length + (decoded cs).length ≤ t.limits.cells) :
    (l.after t cs).entries.length = l.entries.length + (decoded cs).length ∧
      (l.after t cs).statistics.failed = l.statistics.failed := by
  induction cs generalizing l with
  | nil => exact ⟨rfl, rfl⟩
  | cons c cs ih =>
    obtain ⟨hserve, hserves⟩ := List.forall_mem_cons.1 h
    rw [decoded_cons, List.length_append] at hn ⊢
    obtain ⟨hlength, hfailed⟩ := perform_of_fits (l := l) hc hserve (by omega)
    obtain ⟨hlength', hfailed'⟩ := ih (l := l.perform t c) hserves (by omega)
    exact ⟨by rw [after_cons]; omega, hfailed'.trans hfailed⟩

end Ledger

namespace State.Balanced

variable {t : Terms} {κ : Type} [Clock κ] {σ : Rig State κ} {l : Ledger}

lemma length_le {s : State} (h : s.Balanced t l) : l.entries.length ≤ t.limits.cells := by
  rw [← h.size]
  exact h.table.length_le

lemma perform_engine (h : σ.engine.Balanced t l) (c : Call) : (Testbed.perform σ c).engine.Balanced t (l.perform t c) := by
  rw [Rig.perform_engine]
  exact h.perform c

lemma after_engine (h : σ.engine.Balanced t l) (cs : List Call) : (Testbed.after σ cs).engine.Balanced t (l.after t cs) := by
  rw [Rig.after_engine]
  exact h.after cs

lemma failure?_decode (h : σ.engine.Balanced t l) (w : Window) :
    failure? σ (.decode w) = if l.status t w.toList = 0 then none else some (l.status t w.toList) := by
  rw [← (h.decode w.toList).1]
  rfl

lemma status_of_no_failure (h : σ.engine.Balanced t l) {w : Window} (hok : failure? σ (.decode w) = none) :
    l.status t w.toList = 0 := by
  rw [h.failure?_decode] at hok
  by_contra hne
  rw [if_neg hne] at hok
  cases hok

lemma failure?_eq (h : σ.engine.Balanced t l) (hc : t.Computes) {c : Call} (hs : t.Serves c) :
    failure? σ c = if l.entries.length + c.requests.length ≤ t.limits.cells then none else some 1 := by
  cases c with
  | decode w =>
    rw [h.failure?_decode, Ledger.status_of_valid hc (hs.valid w rfl), Call.requests]
    split_ifs <;> simp_all
  | clear => exact absurd rfl hs.noClear
  | share source target span => exact (if_pos h.length_le).symm
  | now => exact (if_pos h.length_le).symm

lemma firstFailure?_eq (h : σ.engine.Balanced t l) (hc : t.Computes) {cs : List Call}
    (hs : ∀ c ∈ cs, t.Serves c) : firstFailure? σ cs =
      if l.entries.length + (decoded cs).length ≤ t.limits.cells then none else some 1 := by
  induction cs generalizing σ l with
  | nil => exact (if_pos h.length_le).symm
  | cons c cs ih =>
    obtain ⟨hserve, hserves⟩ := List.forall_mem_cons.1 hs
    rw [firstFailure?, h.failure?_eq hc hserve, ih (h.perform_engine c) hserves, decoded_cons, List.length_append]
    by_cases hn : l.entries.length + c.requests.length ≤ t.limits.cells
    · rw [if_pos hn, Option.none_or, (Ledger.perform_of_fits hc hserve hn).1, Nat.add_assoc]
    · have hall : ¬ l.entries.length + (c.requests.length + (decoded cs).length) ≤ t.limits.cells := by omega
      rw [if_neg hn, if_neg hall, Option.some_or]

end State.Balanced

end DecodeBench.Transformer
