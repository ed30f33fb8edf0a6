import DecodeBench.Proofs.Engine.Account
import DecodeBench.Proofs.Trial.Room

/-! A trial starts with a clear, so what comes of it can be told from an account on which nothing is
entered yet. Nothing that an engine did before shows in it, and the clock shows in its figures only. -/

namespace DecodeBench

open Transformer

namespace Step

variable {α : Type}

lemma timeless_enter (phase : Trial.Phase) : (enter phase).Timeless := timeless_pure ()

lemma plan_call_congr {c : Call} {f : c.Answer → Step α} {b b' : Batch} (h : ∀ a, (f a).plan b = (f a).plan b') :
    (call c >>= f).plan b = (call c >>= f).plan b' := congrArg (Plan.ask c) (funext h)

lemma plan_clearBatch_congr (f : Unit → Step α) {b b' : Batch} (h : b.Alike b') :
    (clearBatch >>= f).plan b = (clearBatch >>= f).plan b' := by
  have hclear : b.clear = b'.clear := by
    rw [Batch.clear, Batch.clear, ← h.stride]
    exact congrArg (Batch.mk · _) h.capacity.symm
  exact congrArg (f ()).plan hclear

end Step

namespace Trial

open Step

variable {o : TrialOptions} {p : GridPoint}

lemma branch_timeless (prompt : Span) (count first : Nat) : (branch prompt count first).Timeless := by
  induction count generalizing first with
  | zero => exact timeless_pure ()
  | succ count ih => exact timeless_bind (timeless_call nofun) fun _ => ih (first + 1)

lemma sharePrompt_timeless : (sharePrompt Step.enter p o).Timeless := by
  rw [sharePrompt]
  split
  · refine timeless_bind (timeless_enter _) fun _ => ?_
    split
    · exact branch_timeless _ _ _
    · exact timeless_pure ()
  · exact timeless_pure ()

lemma generate_timeless (count generated : Nat) : (generate Step.enter p o count generated).Timeless := by
  induction count generalizing generated with
  | zero => exact timeless_pure ()
  | succ count ih =>
    refine timeless_bind (timeless_enter _) fun _ => ?_
    refine timeless_bind timeless_clearBatch fun _ => ?_
    refine timeless_bind (timeless_fill _ _) fun _ => ?_
    refine timeless_bind (timeless_submitBatch _) fun _ => ?_
    exact ih (generated + 1)

def Timed (o : TrialOptions) (p : GridPoint) (repeatIndex : Nat) (m : Measurement) : Prop :=
  ∃ prefillSeconds decodeSeconds, m = .ofTimings p repeatIndex o.shared prefillSeconds decodeSeconds

lemma measure_twin (repeatIndex repeatIndex' : Nat) :
    (measure Step.enter o p repeatIndex).Twin (fun m _ => Timed o p repeatIndex m)
      (measure Step.enter o p repeatIndex') := by
  refine twin_bind (timeless_enter _) fun _ => ?_
  refine twin_bind (timeless_call nofun) fun _ => ?_
  refine twin_bind timeless_clearBatch fun _ => ?_
  refine twin_bind (timeless_enter _) fun _ => ?_
  refine twin_bind (timeless_fill _ _) fun _ => ?_
  refine twin_bind timeless_wantLast fun _ => ?_
  refine twin_bind (timeless_enter _) fun _ => ?_
  refine twin_now fun _ _ => ?_
  refine twin_bind (timeless_submitBatch _) fun _ => ?_
  refine twin_bind sharePrompt_timeless fun _ => ?_
  refine twin_now fun _ _ => ?_
  refine twin_bind timeless_clearBatch fun _ => ?_
  refine twin_now fun _ _ => ?_
  refine twin_bind (generate_timeless _ _) fun _ => ?_
  exact twin_now fun _ _ => twin_pure ⟨_, _, rfl⟩

lemma measure_congr (repeatIndex : Nat) {b b' : Batch} (h : b.Alike b') :
    (measure Step.enter o p repeatIndex).plan b = (measure Step.enter o p repeatIndex).plan b' :=
  plan_call_congr fun _ => plan_clearBatch_congr _ h

def solo (t : Terms) (b : Batch) (o : TrialOptions) (p : GridPoint) :
    (Except Failure Measurement × Batch) × Rig Account NoClock × Array Record :=
  ((measure Step.enter o p 0).plan b).run ⟨⟨t, {}⟩, ⟨⟩⟩ #[]

variable {t t' : Terms} {κ : Type} [Clock κ] {s : Rig State κ} {l : Ledger} {b b' : Batch}

lemma measure_solo (h : s.engine.Balanced t l) (ht : t.Alike t') (hb : b'.Alike b) (repeatIndex : Nat) (rs : Array Record) :
    let ran := ((measure Step.enter o p repeatIndex).plan b).run s rs
    SameEnd (fun m _ => Timed o p repeatIndex m) ran.1 (solo t' b' o p).1 ∧
      ran.2.1.engine.Keeps s.engine.statistics (solo t' b' o p).2.1.engine := by
  intro ran
  have htwin := measure_twin (o := o) (p := p) repeatIndex 0 b
  rw [← measure_congr 0 hb] at htwin
  -- Before the clear the two testbeds have nothing in common; what it leaves of them is in the relation.
  cases htwin with
  | ask _ hrest => exact (hrest ()).run (State.keeps_mirrors _) (h.keeps_clear ht) rs #[]

end Trial

end DecodeBench
