import DecodeBench.Proofs.Sweep.RecordSequence

/-! The warm-up of a sweep is a batch of its own, decoded chunk by chunk. Either all chunks are decoded
and the points follow, or one fails and that is the end of the sweep. -/

namespace DecodeBench.Sweep

open Testbed Trial

def warmupRequests (c : Config) : List Request := (List.range (min c.warmupTokens c.cacheBudget)).map warmupRequest

def warmupCalls (c : Config) : List Call := scheduled c.chunkSize [.decode (.ofList 1 (warmupRequests c))]

lemma warmup_le_batchCapacity (c : Config) : min c.warmupTokens c.cacheBudget ≤ c.batchCapacity :=
  Nat.le_trans (Nat.min_le_left ..) (Nat.le_max_right ..)

lemma warmUp_follows (c : Config) :
    Follows c.chunkSize [] [.decode (.ofList 1 (warmupRequests c))] (fun _ => ())
      (warmUp (min c.warmupTokens c.cacheBudget) c.chunkSize) (.empty c.batchCapacity 1) := by
  let b : Batch := .empty c.batchCapacity 1
  have hfill : b.clear.fill warmupRequest (min c.warmupTokens c.cacheBudget) = (.ok (), b.holding (warmupRequests c)) :=
    Batch.fill_clear (warmup_le_batchCapacity c) fun _ => Nat.le_refl 1
  apply follows_done (Step.plan_clearBatch b)
  apply follows_done ((Step.plan_fill ..).trans (congrArg Plan.done hfill))
  apply follows_submitBatch
  rfl

variable {σ : Type} [Testbed σ] {c : Config} {s : σ}

lemma warmupCalls_off (off : c.warmupTokens = 0) : warmupCalls c = [] := by
  have hchunks : (Window.ofList 1 (warmupRequests c)).chunks c.chunkSize = [] := by
    apply List.eq_nil_of_length_eq_zero
    rw [warmupRequests, off, Nat.zero_min, Window.length_chunks]
    exact zero_ceilDiv _
  simp [warmupCalls, scheduled, Stage.calls, hchunks]

variable (hl : c.chunkSize ≠ 0)
include hl

lemma exists_ready (hf : firstFailure? s (warmupCalls c) = none) :
    ∃ b, Ready c s b ∧ b.bed = after s (warmupCalls c) := by
  rcases Nat.eq_zero_or_pos c.warmupTokens with off | on
  · rw [warmupCalls_off off]
    exact ⟨_, .cold off, rfl⟩
  · let ran := ((warmUp (min c.warmupTokens c.cacheBudget) c.chunkSize).plan (.empty c.batchCapacity 1)).run s #[]
    have hok : ran.1.1 = .ok () := (warmUp_follows c).answer_ok s #[] hl hf
    have hbed : ran.2.1 = after s (warmupCalls c) := by
      rw [← untilFailure_eq_self hf, warmupCalls, ← (warmUp_follows c).calls_eq s hl]
      exact Plan.run_bed ..
    have hran : ran = ((.ok (), ran.1.2), ran.2.1, ran.2.2) := by rw [← hok]
    exact ⟨⟨ran.1.2, ran.2.1⟩, .warm on hran, hbed⟩

lemma exists_failed_warmup {status : Int} (hf : firstFailure? s (warmupCalls c) = some status) :
    0 < c.warmupTokens ∧ ∃ chunk batch bed, ∀ before,
      ((warmUp (min c.warmupTokens c.cacheBudget) c.chunkSize).plan (.empty c.batchCapacity 1)).run s before =
        ((.error (.decodeFailed chunk status), batch), bed, before) := by
  have on : 0 < c.warmupTokens := by
    apply Nat.pos_of_ne_zero
    intro off
    rw [warmupCalls_off off] at hf
    cases hf
  obtain ⟨chunk, -, hanswer, -⟩ := (warmUp_follows c).answer_failed s #[] hl hf
  let ran := ((warmUp (min c.warmupTokens c.cacheBudget) c.chunkSize).plan (.empty c.batchCapacity 1)).run s #[]
  refine ⟨on, chunk, ran.1.2, ran.2.1, fun before => ?_⟩
  rw [(warmUp_keeps (min c.warmupTokens c.cacheBudget) c.chunkSize).run, ← hanswer]

omit hl

lemma body_of_failed_warmup {batch : Batch} {bed : σ} {e : Failure} {before : Array Record} (on : 0 < c.warmupTokens)
    (ran : ((warmUp (min c.warmupTokens c.cacheBudget) c.chunkSize).plan (.empty c.batchCapacity 1)).run s before =
      ((.error e, batch), bed, before)) :
    ((body c).plan (.empty c.batchCapacity 1)).run s before = ((.error e, batch), bed, before) := by
  rw [body, if_pos on, Step.run_bind_error ran]

lemma run_of_failed_warmup {batch : Batch} {bed : σ} {e : Failure} {before : Array Record} (hvalid : c.validate = .ok ())
    (on : 0 < c.warmupTokens)
    (ran : ((warmUp (min c.warmupTokens c.cacheBudget) c.chunkSize).plan (.empty c.batchCapacity 1)).run s before =
      ((.error e, batch), bed, before)) : (run c).run s before = (.error e, bed, before) := by
  rw [run_of_valid hvalid, Plan.run_bind, body_of_failed_warmup on ran]
  rfl

end DecodeBench.Sweep
