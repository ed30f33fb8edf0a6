import DecodeBench.Proofs.Engine.Demand
import DecodeBench.Proofs.Trial.Requests

/-! A trial on an engine ends well exactly if the engine has as many cells as the point needs, and it
uses that many. -/

namespace DecodeBench

open Model Trial Testbed

namespace Transformer

structure Terms.Suits (t : Terms) (o : TrialOptions) (p : GridPoint) : Prop where
  sequences : 0 < t.limits.sequences
  parallelism : p.parallelism ≤ t.limits.sequences
  chunk : 0 < o.chunkSize
  batch : o.chunkSize ≤ t.limits.batch
  filler : o.filler < t.dimensions.vocabulary

def Terms.SuitsStage (t : Terms) (o : TrialOptions) : Trial.Stage → Prop
  | .clear => False
  | .decode w => w.WellFormed ∧ ∀ r ∈ w.toList, r.token = o.filler ∧ ∃ id < t.limits.sequences, r.sequences = [id]
  | .share _ _ | .now => True

variable {t : Terms} {o : TrialOptions} {p : GridPoint} {stride : Nat}

namespace Terms.Suits

lemma takes (h : t.Suits o p) {r : Request} (hr : r.token = o.filler ∧ ∃ id < t.limits.sequences, r.sequences = [id]) :
    t.Takes r := by
  obtain ⟨htoken, id, hid, hids⟩ := hr
  rw [Takes, htoken, hids]
  exact ⟨h.filler, List.cons_ne_nil _ _, by simpa using hid⟩

lemma prompt_request (h : t.Suits o p) {r : Request} (hr : r ∈ promptRequests p o) :
    r.token = o.filler ∧ ∃ id < t.limits.sequences, r.sequences = [id] := by
  obtain ⟨k, hk, htoken, -, hids⟩ := mem_promptRequests hr
  have hcopies : 0 < p.promptCopies o.shared := Nat.pos_of_mul_pos_left (Nat.zero_lt_of_lt hk)
  have hle : p.promptCopies o.shared ≤ t.limits.sequences := by
    rw [GridPoint.promptCopies]
    split
    · exact h.sequences
    · exact h.parallelism
  exact ⟨htoken, _, Nat.lt_of_lt_of_le (Nat.mod_lt k hcopies) hle, hids⟩

lemma step_request (h : t.Suits o p) {generated : Nat} {r : Request} (hr : r ∈ stepRequests p o generated) :
    r.token = o.filler ∧ ∃ id < t.limits.sequences, r.sequences = [id] := by
  obtain ⟨j, hj, rfl⟩ := mem_stepRequests hr
  exact ⟨rfl, j, Nat.lt_of_lt_of_le hj h.parallelism, rfl⟩

lemma stage_suits (h : t.Suits o p) (hs : 1 ≤ stride) :
    ∀ stage ∈ (stages o p stride).tail, t.SuitsStage o stage := by
  intro stage hstage
  cases stage with
  | clear => exact clear_not_mem_tail hstage
  | decode w =>
    refine ⟨wellFormed_of_mem_stages hs (List.mem_of_mem_tail hstage), fun r hr => ?_⟩
    rcases decode_mem_stages (List.mem_of_mem_tail hstage) with rfl | ⟨i, rfl⟩
    · exact h.prompt_request (promptWindow_toList hs ▸ hr)
    · exact h.step_request (Window.toList_ofList (stepWindow_ids hs i) ▸ hr)
  | share => trivial
  | now => trivial

lemma serves_stage (h : t.Suits o p) {stage : Trial.Stage} (hstage : t.SuitsStage o stage) :
    ∀ c ∈ stage.calls o.chunkSize, t.Serves c := by
  intro c hc
  cases stage with
  | clear => exact hstage.elim
  | share target prompt =>
    cases List.mem_singleton.1 hc
    exact ⟨nofun, nofun⟩
  | now =>
    cases List.mem_singleton.1 hc
    exact ⟨nofun, nofun⟩
  | decode w => exact serves_chunks hstage.1 h.chunk h.batch (fun r hr => h.takes (hstage.2 r hr)) c hc

lemma serves (h : t.Suits o p) (hs : 1 ≤ stride) :
    ∀ c ∈ scheduled o.chunkSize (stages o p stride).tail, t.Serves c := by
  intro c hc
  obtain ⟨stage, hstage, hc⟩ := List.mem_flatMap.1 hc
  exact h.serves_stage (h.stage_suits hs stage hstage) c hc

end Terms.Suits

lemma Ledger.after_schedule {l : Ledger} (hc : t.Computes) (ht : t.Suits o p) (hs : 1 ≤ stride)
    (hn : p.need o.shared ≤ t.limits.cells) :
    (l.after t (schedule o p stride)).entries.length = p.need o.shared ∧
      (l.after t (schedule o p stride)).statistics.failed = l.statistics.failed := by
  rw [← length_decoded_schedule hs ht.chunk] at hn ⊢
  have hrest := after_of_fits (l := { l with entries := [] }) hc (ht.serves hs)
    (by rw [List.length_nil, Nat.zero_add]; exact hn)
  rw [List.length_nil, Nat.zero_add] at hrest
  exact hrest

namespace State.Balanced

lemma firstFailure?_schedule {κ : Type} [Clock κ] {σ : Rig State κ} {l : Ledger} (h : σ.engine.Balanced t l)
    (hc : t.Computes) (ht : t.Suits o p) (hs : 1 ≤ stride) :
    firstFailure? σ (schedule o p stride) = if p.need o.shared ≤ t.limits.cells then none else some 1 := by
  have hrest : firstFailure? σ (schedule o p stride) = _ :=
    (h.perform_engine .clear).firstFailure?_eq hc (ht.serves hs)
  rw [hrest, ← length_decoded_schedule hs ht.chunk, Ledger.perform, List.length_nil, Nat.zero_add]
  rfl

end State.Balanced

end Transformer

namespace Trial

open Cache Transformer

theorem run_ok_iff_need_le {d : Dimensions} {limits : Limits} {device : Device} {format : NumberFormat} {fresh : State}
    (hcreate : State.create d limits device format = .ok fresh) (hcomputes : Terms.Computes ⟨d, limits, device, format⟩)
    (history : List Call) {κ : Type} [Clock κ] (clock : κ) (records : Array Record)
    {o : TrialOptions} (hchunk : 1 ≤ o.chunkSize) (hbatch : o.chunkSize ≤ limits.batch) (hfiller : o.filler < d.vocabulary)
    {p : GridPoint} (hparallelism : p.parallelism ≤ limits.sequences) (repeatIndex : Nat)
    {r : Runner} {capacity ids : Nat} (halike : (Batch.empty capacity ids).Alike r.batch)
    (hprompt : p.promptLength * p.promptCopies o.shared ≤ capacity) (hstep : p.parallelism ≤ capacity) :
    let before : Rig State κ := ⟨Engine.after fresh history, clock⟩
    let answer := ((r.run o p repeatIndex).run before records).1.1
    let after := ((r.run o p repeatIndex).run before records).2.1
    ((∃ m, answer = .ok m) ↔ p.need o.shared ≤ limits.cells) ∧
      (∀ m, answer = .ok m → after.engine.table.used = p.need o.shared ∧
        after.engine.statistics.failed = before.engine.statistics.failed) ∧
      (limits.cells < p.need o.shared → ∃ chunk, answer = .error (.decodeFailed chunk 1)) := by
  intro before answer after
  have hs := (State.create_balanced hcreate).after history
  have ht : Terms.Suits ⟨d, limits, device, format⟩ o p :=
    ⟨(State.create_sequences hcreate).1, hparallelism, hchunk, hbatch, hfiller⟩
  have hl : o.chunkSize ≠ 0 := Nat.ne_of_gt hchunk
  have hb : Holds r.batch o p :=
    ⟨halike.capacity ▸ hprompt, fun _ => halike.capacity ▸ hstep, halike.stride_pos⟩
  have hfirst : firstFailure? before _ = _ := hs.firstFailure?_schedule hcomputes ht hb.ids
  by_cases hn : p.need o.shared ≤ limits.cells
  · rw [if_pos hn] at hfirst
    have hanswer : answer = .ok _ := answer_ok repeatIndex before records hl hb hfirst
    refine ⟨⟨fun _ => hn, fun _ => ⟨_, hanswer⟩⟩, fun m _ => ?_, fun hlt => absurd hn (Nat.not_le.2 hlt)⟩
    have hafter : after.engine = Engine.after before.engine (schedule o p r.batch.window.stride) := by
      rw [← untilFailure_eq_self hfirst, ← calls_eq repeatIndex before hl hb, ← Rig.after_engine,
        ← Plan.run_bed (r.run o p repeatIndex) before records]
    have hs' := hs.after (schedule o p r.batch.window.stride)
    obtain ⟨hlength, hfailed⟩ := Ledger.after_schedule (l := Ledger.after _ {} history) hcomputes ht hb.ids hn
    rw [hafter, hs'.table.used, hs'.statistics, hs.statistics]
    exact ⟨hlength, hfailed⟩
  · rw [if_neg hn] at hfirst
    obtain ⟨chunk, hanswer⟩ : ∃ chunk, answer = .error (.decodeFailed chunk 1) :=
      answer_failed repeatIndex before records hl hb hfirst
    refine ⟨⟨fun ⟨m, hm⟩ => ?_, fun hle => absurd hle hn⟩, fun m hm => ?_, fun _ => ⟨chunk, hanswer⟩⟩
    · cases hanswer.symm.trans hm
    · cases hanswer.symm.trans hm

theorem eight_cells_fit_six_tokens_not_ten :
    let o : TrialOptions := { chunkSize := 3 }
    let r : Runner := { batch := .empty 6 1 }
    ∃ fresh, State.create .tiny { cells := 8, batch := 4 } processor .binary32 = .ok fresh ∧
      (∃ m, ((r.run o ⟨2, 1, 2⟩ 0).run (⟨fresh, ⟨⟩⟩ : Rig State NoClock) #[]).1.1 = .ok m) ∧
      ∃ chunk, ((r.run o ⟨3, 2, 2⟩ 0).run (⟨fresh, ⟨⟩⟩ : Rig State NoClock) #[]).1.1 =
        .error (.decodeFailed chunk 1) := by
  intro o r
  have hcreate : State.create .tiny { cells := 8, batch := 4 } processor .binary32 = .ok _ := rfl
  refine ⟨_, hcreate, ?_, ?_⟩
  · exact (run_ok_iff_need_le hcreate (Terms.computes_processor _ _) [] _ #[] (o := o) (by decide) (by decide)
      (by decide) (p := ⟨2, 1, 2⟩) (by decide) 0 (.refl (.empty 6 1)) (by decide) (by decide)).1.2 (by decide)
  · exact (run_ok_iff_need_le hcreate (Terms.computes_processor _ _) [] _ #[] (o := o) (by decide) (by decide)
      (by decide) (p := ⟨3, 2, 2⟩) (by decide) 0 (.refl (.empty 6 1)) (by decide) (by decide)).2.2 (by decide)

end Trial

end DecodeBench
