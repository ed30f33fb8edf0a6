import DecodeBench.Proofs.Trial.Schedule

/-! What a trial decodes: the prompt, and then one token of every sequence at each step. Where the
chunks are cut does not show in it. -/

namespace DecodeBench.Trial

variable {o : TrialOptions} {p : GridPoint} {limit stride : Nat}

lemma length_promptRequests : (promptRequests p o).length = p.promptLength * p.promptCopies o.shared := by
  simp [promptRequests]

lemma length_prompt_eq (p : GridPoint) (shared : Bool) :
    p.promptLength * p.promptCopies shared = Measurement.prefillTokens p shared := by
  cases shared
  · exact Nat.mul_comm ..
  · exact Nat.mul_one _

lemma mem_promptRequests {r : Request} (hr : r ∈ promptRequests p o) :
    ∃ k < p.promptLength * p.promptCopies o.shared,
      r.token = o.filler ∧ r.position = k / p.promptCopies o.shared ∧ r.sequences = [k % p.promptCopies o.shared] := by
  obtain ⟨k, hk, rfl⟩ := List.mem_iff_getElem.1 hr
  refine ⟨k, length_promptRequests ▸ hk, ?_⟩
  simp only [promptRequests, List.getElem_modify, List.getElem_map, List.getElem_range]
  split <;> exact ⟨rfl, rfl, rfl⟩

lemma mem_stepRequests {generated : Nat} {r : Request} (hr : r ∈ stepRequests p o generated) :
    ∃ j < p.parallelism, r = p.nextRequest o generated j := by
  obtain ⟨j, hj, rfl⟩ := List.mem_map.1 hr
  exact ⟨j, List.mem_range.1 hj, rfl⟩

lemma share_of_mem_shareStages {stage : Stage} (h : stage ∈ shareStages o p) : ∃ target span, stage = .share target span := by
  rw [shareStages] at h
  split_ifs at h
  · obtain ⟨target, -, rfl⟩ := List.mem_map.1 h
    exact ⟨target, _, rfl⟩
  · cases h

lemma clear_not_mem_tail : .clear ∉ (stages o p stride).tail := by
  intro h
  simp only [stages, stepStages, List.cons_append, List.nil_append, List.tail_cons, List.mem_append, List.mem_cons,
    List.mem_map, List.not_mem_nil, or_false, reduceCtorEq, false_or, and_false, exists_false] at h
  obtain ⟨_, _, h⟩ := share_of_mem_shareStages h
  cases h

lemma decode_mem_stages {w : Window} (hw : .decode w ∈ stages o p stride) :
    w = promptWindow o p stride ∨ ∃ i, w = .ofList stride (stepRequests p o i) := by
  simp only [stages, stepStages, List.mem_append, List.mem_cons, List.not_mem_nil, or_false, reduceCtorEq, false_or,
    Stage.decode.injEq] at hw
  rcases hw with hprompt | hshare | hstep
  · exact .inl hprompt
  · obtain ⟨_, _, h⟩ := share_of_mem_shareStages hshare
    cases h
  · obtain ⟨i, -, h⟩ := List.mem_map.1 hstep
    exact .inr ⟨i, (Stage.decode.inj h).symm⟩

section Windows

variable (hs : 1 ≤ stride)
include hs

lemma promptWindow_ids : ∀ r ∈ (List.range (p.promptLength * p.promptCopies o.shared)).map (p.promptRequest o),
    r.sequences.length ≤ stride := by
  intro r hr
  obtain ⟨k, -, rfl⟩ := List.mem_map.1 hr
  exact hs

lemma promptWindow_wellFormed : (promptWindow o p stride).WellFormed :=
  (Window.wellFormed_ofList (promptWindow_ids hs)).setOutput _ _

lemma promptWindow_toList : (promptWindow o p stride).toList = promptRequests p o := by
  have hids := promptWindow_ids (o := o) (p := p) hs
  rw [promptWindow, (Window.wellFormed_ofList hids).toList_setOutput, Window.toList_ofList hids,
    Window.size_ofList hids, promptRequests]

lemma stepWindow_ids (generated : Nat) : ∀ r ∈ stepRequests p o generated, r.sequences.length ≤ stride := by
  intro r hr
  obtain ⟨j, -, rfl⟩ := mem_stepRequests hr
  exact hs

lemma wellFormed_of_mem_stages {w : Window} (hw : .decode w ∈ stages o p stride) : w.WellFormed := by
  rcases decode_mem_stages hw with rfl | ⟨i, rfl⟩
  · exact promptWindow_wellFormed hs
  · exact Window.wellFormed_ofList (stepWindow_ids hs i)

end Windows

lemma decoded_chunks {w : Window} (hw : w.WellFormed) (hl : 0 < limit) :
    decoded ((w.chunks limit).map .decode) = w.toList := by
  rw [decoded_decodes, Window.flatMap_chunks hw hl]

lemma scheduled_append (before after : List Stage) :
    scheduled limit (before ++ after) = scheduled limit before ++ scheduled limit after := List.flatMap_append

lemma decoded_scheduled_shareStages : decoded (scheduled limit (shareStages o p)) = [] := by
  rw [shareStages]
  split_ifs
  · refine List.flatMap_eq_nil_iff.2 fun c hc => ?_
    simp only [scheduled, Stage.calls, List.flatMap_map, List.mem_flatMap, List.mem_singleton] at hc
    obtain ⟨target, -, rfl⟩ := hc
    rfl
  · rfl

lemma decoded_scheduled_stepStages (hs : 1 ≤ stride) (hl : 0 < limit) :
    decoded (scheduled limit (stepStages o p stride)) = (List.range p.genLength).flatMap (stepRequests p o) := by
  rw [stepStages, ← List.range_eq_range', scheduled, List.flatMap_map, decoded, List.flatMap_assoc]
  congr 1
  funext i
  have hids := stepWindow_ids (o := o) (p := p) hs i
  exact (decoded_chunks (Window.wellFormed_ofList hids) hl).trans (Window.toList_ofList hids)

def promptCalls (o : TrialOptions) (p : GridPoint) (stride : Nat) : List Call :=
  .now :: ((promptWindow o p stride).chunks o.chunkSize).map .decode

def stepCalls (o : TrialOptions) (p : GridPoint) (stride : Nat) : List Call :=
  scheduled o.chunkSize ([.now, .now] ++ (stepStages o p stride ++ [.now]))

lemma schedule_eq : schedule o p stride =
    .clear :: (promptCalls o p stride ++ (scheduled o.chunkSize (shareStages o p) ++ stepCalls o p stride)) := by
  rw [schedule, stages, scheduled_append, scheduled_append, stepCalls]
  simp [scheduled, Stage.calls, promptCalls]

lemma decoded_promptCalls (hs : 1 ≤ stride) (hl : 0 < o.chunkSize) :
    decoded (promptCalls o p stride) = promptRequests p o := by
  rw [promptCalls, decoded_cons, decoded_chunks (promptWindow_wellFormed hs) hl, promptWindow_toList hs]
  rfl

lemma decoded_stepCalls (hs : 1 ≤ stride) (hl : 0 < o.chunkSize) :
    decoded (stepCalls o p stride) = (List.range p.genLength).flatMap (stepRequests p o) := by
  rw [stepCalls, scheduled_append, scheduled_append, decoded_append, decoded_append,
    decoded_scheduled_stepStages hs hl]
  simp [scheduled, Stage.calls, Call.requests]

lemma decoded_schedule (hs : 1 ≤ stride) (hl : 0 < o.chunkSize) :
    decoded (schedule o p stride) = promptRequests p o ++ (List.range p.genLength).flatMap (stepRequests p o) := by
  rw [schedule_eq, decoded_cons, decoded_append, decoded_append, decoded_promptCalls hs hl,
    decoded_scheduled_shareStages, decoded_stepCalls hs hl]
  rfl

lemma length_decoded_schedule (hs : 1 ≤ stride) (hl : 0 < o.chunkSize) :
    (decoded (schedule o p stride)).length = p.need o.shared := by
  rw [decoded_schedule hs hl, List.length_append, length_promptRequests, GridPoint.promptCopies, GridPoint.need]
  simp only [List.length_flatMap, stepRequests, List.length_map, List.length_range, List.map_const',
    List.sum_replicate_nat]
  split
  · rw [Nat.mul_one, Nat.mul_comm p.parallelism]
  · rw [Nat.mul_add, Nat.mul_comm p.parallelism, Nat.mul_comm p.parallelism]

end DecodeBench.Trial
