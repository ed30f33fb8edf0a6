import DecodeBench.Proofs.Plan.Failures
import DecodeBench.Proofs.Trial.Stages

/-! The calls of a trial: its schedule up to the first decode that fails. -/

namespace DecodeBench.Trial

open Testbed

/-- What a trial does next, as far as it can be told from outside: a decode has its place among the
chunks of its batch, and the requests are told apart from the window that lays them out. -/
inductive Act where
  | clear
  | now
  | share (target : Nat) (prompt : Span)
  | decode (chunk : Nat) (requests : List Request)
  deriving DecidableEq, Repr

namespace Stage

def calls (limit : Nat) : Stage → List Call
  | .clear => [.clear]
  | .share target prompt => [.share 0 target prompt]
  | .now => [.now]
  | .decode w => (w.chunks limit).map .decode

def acts (limit : Nat) : Stage → List Act
  | .clear => [.clear]
  | .share target prompt => [.share target prompt]
  | .now => [.now]
  | .decode w => (w.chunks limit).mapIdx fun chunk c => .decode chunk c.toList

lemma length_acts (limit : Nat) (stage : Stage) : (stage.acts limit).length = (stage.calls limit).length := by
  cases stage with
  | decode w => rw [acts, calls, List.length_mapIdx, List.length_map]
  | clear => rfl
  | share => rfl
  | now => rfl

end Stage

def scheduled (limit : Nat) (stages : List Stage) : List Call := stages.flatMap (Stage.calls limit)

section Follow

variable {σ : Type} [Testbed σ] {limit : Nat} {s : σ}

lemma scheduled_cons (stage : Stage) (stages : List Stage) :
    scheduled limit (stage :: stages) = stage.calls limit ++ scheduled limit stages := List.flatMap_cons

lemma follow_calls (hl : limit ≠ 0) (shown : List Nat) (stages : List Stage) :
    (follow limit shown stages).calls s = untilFailure s (scheduled limit stages) := by
  induction stages generalizing s shown with
  | nil => rfl
  | cons stage stages ih =>
    rw [scheduled_cons, untilFailure_append]
    cases stage with
    | clear => exact congrArg (_ :: ·) (ih shown)
    | share => exact congrArg (_ :: ·) (ih shown)
    | now => exact congrArg (_ :: ·) (ih _)
    | decode w =>
      rw [follow, decodeInChunks_eq hl, Plan.calls_bind _ _ _ #[], submit_calls, submit_answer, Plan.run_bed,
        submit_calls, Stage.calls]
      cases hf : firstFailure? s ((w.chunks limit).map .decode) with
      | none => rw [untilFailure_eq_self hf, ← ih shown]
      | some status => rfl

lemma follow_cons (hl : limit ≠ 0) (shown : List Nat) {stage : Stage} (stages : List Stage) (rs : Array Record)
    (h : firstFailure? s (stage.calls limit) = none) : (follow limit shown (stage :: stages)).run s rs =
      (follow limit (shown ++ readings s (stage.calls limit)) stages).run (after s (stage.calls limit)) rs := by
  cases stage with
  | clear => exact (congrArg (fun shown => (follow limit shown stages).run _ rs) (List.append_nil shown)).symm
  | share => exact (congrArg (fun shown => (follow limit shown stages).run _ rs) (List.append_nil shown)).symm
  | now => rfl
  | decode w =>
    rw [Stage.calls] at h ⊢
    rw [follow, decodeInChunks_eq hl, Plan.run_bind, submit_answer, h, Plan.run_bed, submit_calls,
      untilFailure_eq_self h, readings_decodes, List.append_nil, ((Plan.always_submit _ 0).run s rs).2]

lemma follow_ok (hl : limit ≠ 0) (shown : List Nat) {stages : List Stage} (rs : Array Record)
    (h : firstFailure? s (scheduled limit stages) = none) :
    ((follow limit shown stages).run s rs).1 = .ok (shown ++ readings s (scheduled limit stages)) := by
  induction stages generalizing s shown with
  | nil => simp [follow, Plan.run, scheduled, readings]
  | cons stage stages ih =>
    rw [scheduled_cons] at h ⊢
    rw [firstFailure?_append, Option.or_eq_none_iff] at h
    rw [follow_cons hl shown stages rs h.1, ih _ h.2, readings_append, List.append_assoc]

lemma getElem?_acts {w : Window} {status : Int} (h : firstFailure? s ((w.chunks limit).map .decode) = some status) :
    ∃ requests, ((Stage.decode w).acts limit)[(untilFailure s ((w.chunks limit).map .decode)).length - 1]? =
      some (.decode ((untilFailure s ((w.chunks limit).map .decode)).length - 1) requests) := by
  obtain ⟨before, c, after', hcalls, hmade, -, -⟩ := exists_first_failure h
  have hlt : before.length < (w.chunks limit).length := by
    have hlength := congrArg List.length hcalls
    rw [List.length_map, List.length_append, List.length_cons] at hlength
    omega
  rw [hmade, List.length_append, List.length_singleton, Nat.add_sub_cancel]
  exact ⟨(w.chunks limit)[before.length].toList, by simp [Stage.acts, hlt]⟩

lemma follow_failed (hl : limit ≠ 0) (shown : List Nat) {stages : List Stage} (rs : Array Record) {status : Int}
    (h : firstFailure? s (scheduled limit stages) = some status) :
    ∃ chunk requests, ((follow limit shown stages).run s rs).1 = .error (.decodeFailed chunk status) ∧
      (stages.flatMap (Stage.acts limit))[(untilFailure s (scheduled limit stages)).length - 1]? =
        some (.decode chunk requests) := by
  induction stages generalizing s shown with
  | nil => simp [scheduled, firstFailure?] at h
  | cons stage stages ih =>
    rw [scheduled_cons, firstFailure?_append] at h
    rw [scheduled_cons, untilFailure_append, List.flatMap_cons]
    cases hf : firstFailure? s (stage.calls limit) with
    | none =>
      rw [hf, Option.none_or] at h
      obtain ⟨chunk, requests, hanswer, hact⟩ := ih (shown ++ readings s (stage.calls limit)) h
      obtain ⟨before, w, -, -, hmade, -, -⟩ := exists_first_failure h
      refine ⟨chunk, requests, by rw [follow_cons hl shown stages rs hf, hanswer], ?_⟩
      rw [untilFailure_eq_self hf, List.getElem?_append_right, Stage.length_acts, ← hact]
      · simp [hmade]
      · simp [hmade, Stage.length_acts]
    | some status' =>
      rw [hf, Option.some_or, Option.some.injEq] at h
      subst h
      cases stage with
      | clear => cases hf
      | share => cases hf
      | now => cases hf
      | decode w =>
        rw [Stage.calls] at hf ⊢
        obtain ⟨requests, hact⟩ := getElem?_acts hf
        obtain ⟨hlt, -⟩ := List.getElem?_eq_some_iff.1 hact
        refine ⟨(untilFailure s ((w.chunks limit).map .decode)).length - 1, requests, ?_, ?_⟩
        · rw [follow, decodeInChunks_eq hl, Plan.run_bind, submit_answer, hf]
          simp only [Nat.zero_add]
          rfl
        · simpa [List.getElem?_append_left hlt] using hact

end Follow

namespace Follows

variable {σ α : Type} [Testbed σ] {limit : Nat} {stages : List Stage} {answer : List Nat → α} {x : Step α} {b : Batch}
  (h : Follows limit [] stages answer x b) (s : σ) (rs : Array Record)
include h

lemma run_answer : ((x.plan b).run s rs).1.1 = ((follow limit [] stages).run s rs).1.map answer := by
  have hanswer : ((x.outcome b).run s rs).1 = ((x.plan b).run s rs).1.1 := by
    rw [Step.outcome, Plan.run_bind]
    rfl
  rw [← hanswer, h, Plan.run_bind]
  rfl

variable (hl : limit ≠ 0)
include hl

lemma calls_eq : (x.plan b).calls s = untilFailure s (scheduled limit stages) := by
  have hcalls : (x.outcome b).calls s = (x.plan b).calls s := by
    rw [Step.outcome, Plan.calls_bind _ _ _ #[]]
    exact List.append_nil _
  rw [← hcalls, h, Plan.calls_bind _ _ _ #[], follow_calls hl]
  exact List.append_nil _

lemma answer_ok (hf : firstFailure? s (scheduled limit stages) = none) :
    ((x.plan b).run s rs).1.1 = .ok (answer (readings s (scheduled limit stages))) := by
  rw [h.run_answer, follow_ok hl [] rs hf]
  rfl

lemma answer_failed {status : Int} (hf : firstFailure? s (scheduled limit stages) = some status) :
    ∃ chunk requests, ((x.plan b).run s rs).1.1 = .error (.decodeFailed chunk status) ∧
      (stages.flatMap (Stage.acts limit))[((x.plan b).calls s).length - 1]? = some (.decode chunk requests) := by
  obtain ⟨chunk, requests, hanswer, hact⟩ := follow_failed hl [] rs hf
  refine ⟨chunk, requests, ?_, by rw [h.calls_eq s hl, hact]⟩
  rw [h.run_answer, hanswer]
  rfl

end Follows

def schedule (o : TrialOptions) (p : GridPoint) (stride : Nat) : List Call :=
  scheduled o.chunkSize (stages o p stride)

structure Holds (b : Batch) (o : TrialOptions) (p : GridPoint) : Prop where
  prompt : p.promptLength * p.promptCopies o.shared ≤ b.capacity
  step : 0 < p.genLength → p.parallelism ≤ b.capacity
  ids : 1 ≤ b.window.stride

lemma Holds.follows {b : Batch} {o : TrialOptions} {p : GridPoint} (h : Holds b o p) (repeatIndex : Nat) :
    Follows o.chunkSize [] (stages o p b.window.stride) (measurement o p repeatIndex)
      (measure Step.enter o p repeatIndex) b :=
  measure_follows repeatIndex h.prompt h.step h.ids

section Runs

variable {σ : Type} [Testbed σ] {o : TrialOptions} {p : GridPoint} {r : Runner} (repeatIndex : Nat) (s : σ)
  (rs : Array Record)

variable (hl : o.chunkSize ≠ 0) (hb : Holds r.batch o p)
include hl hb

lemma calls_eq : (r.run o p repeatIndex).calls s = untilFailure s (schedule o p r.batch.window.stride) := by
  rw [run_calls, (hb.follows repeatIndex).calls_eq s hl, schedule]

lemma answer_ok (h : firstFailure? s (schedule o p r.batch.window.stride) = none) :
    ((r.run o p repeatIndex).run s rs).1.1 =
      .ok (measurement o p repeatIndex (readings s (schedule o p r.batch.window.stride))) := by
  rw [run_answer, (hb.follows repeatIndex).answer_ok s rs hl h, schedule]

lemma answer_failed_at {status : Int} (h : firstFailure? s (schedule o p r.batch.window.stride) = some status) :
    ∃ chunk requests, ((r.run o p repeatIndex).run s rs).1.1 = .error (.decodeFailed chunk status) ∧
      ((stages o p r.batch.window.stride).flatMap (Stage.acts o.chunkSize))[
        ((r.run o p repeatIndex).calls s).length - 1]? = some (.decode chunk requests) := by
  rw [run_answer, run_calls]
  exact (hb.follows repeatIndex).answer_failed s rs hl h

lemma answer_failed {status : Int} (h : firstFailure? s (schedule o p r.batch.window.stride) = some status) :
    ∃ chunk, ((r.run o p repeatIndex).run s rs).1.1 = .error (.decodeFailed chunk status) := by
  obtain ⟨chunk, -, hanswer, -⟩ := answer_failed_at repeatIndex s rs hl hb h
  exact ⟨chunk, hanswer⟩

end Runs

end DecodeBench.Trial
