import DecodeBench.Proofs.Engine.Tally
import DecodeBench.Proofs.Trial.Requests

/-! How many decodes a trial asks for, and how many outputs. -/

namespace DecodeBench.Trial

open Transformer

variable {o : TrialOptions} {p : GridPoint} {limit stride : Nat}

lemma countP_decode_calls {w : Window} (hw : w.WellFormed) :
    (scheduled limit [.decode w]).countP Call.isDecode = w.toList.length ⌈/⌉ limit := by
  have hall : ∀ c ∈ (w.chunks limit).map Call.decode, c.isDecode = true := by
    intro c hc
    obtain ⟨chunk, -, rfl⟩ := List.mem_map.1 hc
    rfl
  rw [hw.length_toList, ← Window.length_chunks, scheduled, List.flatMap_singleton, Stage.calls,
    List.countP_eq_length.2 hall, List.length_map]

lemma countP_decode_quiet {stages : List Stage} (h : ∀ w, .decode w ∉ stages) :
    (scheduled limit stages).countP Call.isDecode = 0 := by
  rw [List.countP_eq_zero]
  intro c hc
  obtain ⟨stage, hstage, hcall⟩ := List.mem_flatMap.1 hc
  cases stage with
  | decode w => exact absurd hstage (h w)
  | clear => simp_all [Stage.calls, Call.isDecode]
  | share => simp_all [Stage.calls, Call.isDecode]
  | now => simp_all [Stage.calls, Call.isDecode]

variable (hs : 1 ≤ stride)
include hs

lemma countP_decode_steps (steps : List Nat) :
    (scheduled limit (steps.map fun i => .decode (.ofList stride (stepRequests p o i)))).countP Call.isDecode =
      steps.length * (p.parallelism ⌈/⌉ limit) := by
  induction steps with
  | nil => simp [scheduled]
  | cons i steps ih =>
    have hids := stepWindow_ids (o := o) (p := p) hs i
    have hstep : (scheduled limit [.decode (.ofList stride (stepRequests p o i))]).countP Call.isDecode = _ :=
      countP_decode_calls (Window.wellFormed_ofList hids)
    rw [Window.toList_ofList hids, stepRequests, List.length_map, List.length_range] at hstep
    rw [List.map_cons, ← List.singleton_append, scheduled_append, List.countP_append, ih, List.length_cons, Nat.succ_mul,
      Nat.add_comm]
    exact congrArg _ hstep

lemma countP_decode_schedule : (schedule o p stride).countP Call.isDecode =
    (p.promptLength * p.promptCopies o.shared) ⌈/⌉ o.chunkSize + p.genLength * (p.parallelism ⌈/⌉ o.chunkSize) := by
  have hprompt : (scheduled o.chunkSize [.decode (promptWindow o p stride)]).countP Call.isDecode = _ :=
    countP_decode_calls (promptWindow_wellFormed hs)
  rw [promptWindow_toList hs, length_promptRequests] at hprompt
  have hshares : (scheduled o.chunkSize (shareStages o p)).countP Call.isDecode = 0 := by
    apply countP_decode_quiet
    intro w hw
    obtain ⟨_, _, hshare⟩ := share_of_mem_shareStages hw
    cases hshare
  have hsteps : (scheduled o.chunkSize (stepStages o p stride)).countP Call.isDecode =
      p.genLength * (p.parallelism ⌈/⌉ o.chunkSize) := by
    rw [stepStages, countP_decode_steps hs, List.length_range']
  have hstart : (scheduled o.chunkSize [.clear, .now]).countP Call.isDecode = 0 := countP_decode_quiet (by simp)
  have hbetween : (scheduled o.chunkSize [.now, .now]).countP Call.isDecode = 0 := countP_decode_quiet (by simp)
  have hend : (scheduled o.chunkSize [.now]).countP Call.isDecode = 0 := countP_decode_quiet (by simp)
  rw [schedule, stages, show [Stage.clear, .now, .decode (promptWindow o p stride)] =
    [.clear, .now] ++ [.decode (promptWindow o p stride)] from rfl]
  simp only [scheduled_append, List.countP_append, hprompt, hshares, hsteps, hstart, hbetween, hend]
  omega

end DecodeBench.Trial
