import DecodeBench.Proofs.Trial.Requests
import DecodeBench.Proofs.Trial.Room
import DecodeBench.Scripted

/-! What a trial does, written down beforehand. A run follows its script to the end, or to the first
decode that fails, on whatever engine and clock, and whatever a run before has left in the batch. -/

namespace DecodeBench.Trial

open Testbed

def prompt (o : TrialOptions) (p : GridPoint) : List Request :=
  let copies := p.promptCopies o.shared
  (List.range p.promptLength).flatMap fun i => (List.range copies).map fun j =>
    ⟨o.filler, i, [j], decide (i + 1 = p.promptLength ∧ j + 1 = copies)⟩

def continuations (o : TrialOptions) (p : GridPoint) (i : Nat) : List Request :=
  (List.range p.parallelism).map fun j => ⟨o.filler, p.promptLength + i, [j], true⟩

def decodes (limit : Nat) (rs : List Request) : List Act := (slices limit rs).mapIdx .decode

def shares (o : TrialOptions) (p : GridPoint) : List Act :=
  if o.shared ∧ 0 < p.promptLength then
    (List.range' 1 (p.parallelism - 1)).map fun j => .share j ⟨0, p.promptLength⟩
  else []

def script (o : TrialOptions) (p : GridPoint) : List Act :=
  [.clear, .now] ++ decodes o.chunkSize (prompt o p) ++ shares o p ++ [.now, .now] ++
    (List.range p.genLength).flatMap (fun i => decodes o.chunkSize (continuations o p i)) ++ [.now]

inductive Act.Describes : Act → Call → Prop
  | clear : Describes .clear .clear
  | now : Describes .now .now
  | share {target : Nat} {span : Span} : Describes (.share target span) (.share 0 target span)
  | decode {chunk : Nat} {w : Window} (laidOut : w.WellFormed) : Describes (.decode chunk w.toList) (.decode w)

inductive Course {ε : Type} [Engine ε] (engine : ε) (calls : List Call) : List Call → Option Int → Prop
  | whole (ok : ∀ status ∈ Engine.statuses engine calls, status = 0) : Course engine calls calls none
  | brokenOff {before rest : List Call} {w : Window} {status : Int} (cut : calls = before ++ .decode w :: rest)
      (ok : ∀ status ∈ Engine.statuses engine before, status = 0)
      (answer : (Engine.decode w (Engine.after engine before)).1 = status) (failed : status ≠ 0) :
      Course engine calls (before ++ [.decode w]) (some status)

section Acts

variable {o : TrialOptions} {p : GridPoint} {limit stride : Nat}

lemma promptRequests_eq : promptRequests p o = prompt o p := by
  rw [prompt, ← map_range_mul fun i j => (⟨o.filler, i, [j],
    decide (i + 1 = p.promptLength ∧ j + 1 = p.promptCopies o.shared)⟩ : Request)]
  simp only [promptRequests, List.length_map, List.length_range]
  rw [modify_last_map_range]
  refine List.map_congr_left fun k hk => ?_
  rw [← decide_eq_decide.2 (last_of_grid (List.mem_range.1 hk))]
  by_cases hlast : k + 1 = p.promptLength * p.promptCopies o.shared
  · rw [if_pos hlast, decide_eq_true hlast]
    rfl
  · rw [if_neg hlast, decide_eq_false hlast]
    rfl

lemma length_prompt : (prompt o p).length = p.promptLength * p.promptCopies o.shared := by
  rw [← promptRequests_eq, length_promptRequests]

lemma acts_decode {w : Window} (hw : w.WellFormed) (hl : 0 < limit) :
    (Stage.decode w).acts limit = decodes limit w.toList := by
  apply List.ext_getElem?
  intro k
  rw [Stage.acts, decodes, ← Window.toList_chunks hw hl, List.getElem?_mapIdx, List.getElem?_mapIdx,
    List.getElem?_map, Option.map_map]
  rfl

lemma describes_decodes {ws : List Window} (hws : ∀ w ∈ ws, w.WellFormed) (place : Nat → Nat) :
    List.Forall₂ Act.Describes (ws.mapIdx fun k w => .decode (place k) w.toList) (ws.map .decode) := by
  induction ws generalizing place with
  | nil => exact .nil
  | cons w ws ih =>
    obtain ⟨hw, hws⟩ := List.forall_mem_cons.1 hws
    rw [List.mapIdx_cons, List.map_cons]
    exact .cons (.decode hw) (ih hws fun k => place (k + 1))

lemma describes_stages {stages : List Stage} (hw : ∀ w, .decode w ∈ stages → w.WellFormed) :
    List.Forall₂ Act.Describes (stages.flatMap (Stage.acts limit)) (scheduled limit stages) := by
  induction stages with
  | nil => exact .nil
  | cons stage stages ih =>
    have hrest := ih fun w hmem => hw w (List.mem_cons_of_mem _ hmem)
    rw [List.flatMap_cons, scheduled_cons]
    cases stage with
    | clear => exact .cons .clear hrest
    | share => exact .cons .share hrest
    | now => exact .cons .now hrest
    | decode w =>
      have hchunks : ∀ c ∈ w.chunks limit, c.WellFormed := fun c hc =>
        Window.wellFormed_chunks (hw w List.mem_cons_self) hc
      exact List.rel_append (describes_decodes hchunks fun k => k) hrest

variable (hs : 1 ≤ stride)
include hs

lemma acts_stages (hl : 0 < o.chunkSize) :
    (stages o p stride).flatMap (Stage.acts o.chunkSize) = script o p := by
  have hprompt := acts_decode (promptWindow_wellFormed (o := o) (p := p) hs) hl
  have hshares : (shareStages o p).flatMap (Stage.acts o.chunkSize) = shares o p := by
    rw [shareStages, shares]
    simp only [Nat.pos_iff_ne_zero]
    split_ifs
    · rw [List.flatMap_map]
      exact List.map_eq_flatMap.symm
    · rfl
  have hsteps : (stepStages o p stride).flatMap (Stage.acts o.chunkSize) =
      (List.range p.genLength).flatMap fun i => decodes o.chunkSize (continuations o p i) := by
    rw [stepStages, ← List.range_eq_range', List.flatMap_map]
    refine List.flatMap_congr fun i _ => ?_
    have hids := stepWindow_ids (o := o) (p := p) hs i
    rw [acts_decode (Window.wellFormed_ofList hids) hl, Window.toList_ofList hids]
    rfl
  rw [promptWindow_toList hs, promptRequests_eq] at hprompt
  simp only [stages, script, List.flatMap_append, hshares, hsteps, List.flatMap_cons, List.flatMap_nil, hprompt]
  simp [Stage.acts]

lemma describes_schedule (hl : 0 < o.chunkSize) : List.Forall₂ Act.Describes (script o p) (schedule o p stride) := by
  rw [← acts_stages hs hl]
  exact describes_stages fun w hw => wellFormed_of_mem_stages hs hw

omit hs

lemma count_now_scheduled {stages : List Stage} (h : .now ∉ stages) : (scheduled limit stages).count .now = 0 := by
  rw [List.count_eq_zero]
  intro hmem
  obtain ⟨stage, hstage, hcall⟩ := List.mem_flatMap.1 hmem
  cases stage <;> simp_all [Stage.calls]

lemma count_now_schedule : (schedule o p stride).count .now = 4 := by
  have hprompt : (scheduled o.chunkSize [.clear, .now, .decode (promptWindow o p stride)]).count .now = 1 := by
    rw [scheduled_cons, scheduled_cons, List.count_append, List.count_append, count_now_scheduled (by simp)]
    rfl
  have hshares : (scheduled o.chunkSize (shareStages o p)).count .now = 0 := by
    apply count_now_scheduled
    intro h
    obtain ⟨_, _, hshare⟩ := share_of_mem_shareStages h
    cases hshare
  have hsteps : (scheduled o.chunkSize (stepStages o p stride)).count .now = 0 :=
    count_now_scheduled (by simp [stepStages])
  rw [schedule, stages]
  simp only [scheduled_append, List.count_append, hprompt, hshares, hsteps]
  rfl

end Acts

section Runs

variable {ε κ : Type} [Engine ε] [Clock κ]

lemma course (s : Rig ε κ) (calls : List Call) :
    Course s.engine calls (untilFailure s calls) (firstFailure? s calls) := by
  cases hf : firstFailure? s calls with
  | none =>
    rw [untilFailure_eq_self hf]
    exact .whole (Rig.firstFailure?_eq_none.1 hf)
  | some status =>
    obtain ⟨before, w, rest, hcut, hmade, hbefore, hw⟩ := exists_first_failure hf
    have hanswer : (answer (.decode w) (after s before)).1 = (Engine.decode w (Engine.after s.engine before)).1 := by
      rw [← Rig.after_engine]
      rfl
    rw [failure?, hanswer] at hw
    split_ifs at hw with hzero
    rw [Option.some.injEq] at hw
    rw [hmade]
    exact .brokenOff hcut (Rig.firstFailure?_eq_none.1 hbefore) hw (hw ▸ hzero)

theorem run_follows_script (engine : ε) (clock : κ) (records : Array Record) {o : TrialOptions}
    (hchunk : 1 ≤ o.chunkSize) {p : GridPoint} (repeatIndex : Nat) {r : Runner} {capacity ids : Nat}
    (halike : (Batch.empty capacity ids).Alike r.batch) (hprompt : (prompt o p).length ≤ capacity)
    (hstep : 0 < p.genLength → p.parallelism ≤ capacity) :
    let before : Rig ε κ := ⟨engine, clock⟩
    let made := (r.run o p repeatIndex).calls before
    let ran := (r.run o p repeatIndex).run before records
    ∃ calls failure, List.Forall₂ Act.Describes (script o p) calls ∧ Course engine calls made failure ∧
      ran.2.1 = ⟨Engine.after engine made, Clock.after clock (made.count .now)⟩ ∧ ran.2.2 = records ∧
      r.batch.Alike ran.1.2.batch ∧
      match failure with
      | none =>
        ran.1.1 = .ok (.ofTimings p repeatIndex o.shared
          (secondsBetween (Clock.reading clock 0) (Clock.reading clock 1))
          (secondsBetween (Clock.reading clock 2) (Clock.reading clock 3))) ∧ ran.1.2.phase = .done
      | some status => ran.1.2.phase = .aborted ∧ ∃ chunk requests, ran.1.1 = .error (.decodeFailed chunk status) ∧
          (script o p)[made.length - 1]? = some (.decode chunk requests) := by
  intro before made ran
  have hl : o.chunkSize ≠ 0 := Nat.ne_of_gt hchunk
  have hb : Holds r.batch o p := by
    rw [length_prompt] at hprompt
    exact ⟨halike.capacity ▸ hprompt, fun h => halike.capacity ▸ hstep h, halike.stride_pos⟩
  have hmade : made = untilFailure before (schedule o p r.batch.window.stride) := calls_eq repeatIndex before hl hb
  have hbed : ran.2.1 = after before made := Plan.run_bed ..
  have hphase : ran.1.2.phase = .of ran.1.1 := run_phase before records
  have hran : ((ran.1.1, ran.1.2.batch), ran.2) = ((measure Step.enter o p repeatIndex).plan r.batch).run before records :=
    run_eq before records
  refine ⟨schedule o p r.batch.window.stride, firstFailure? before (schedule o p r.batch.window.stride),
    describes_schedule hb.ids hchunk, hmade ▸ course before _, ?_, ?_, ?_, ?_⟩
  · rw [hbed, Rig.after_eq]
  · rw [(measure_keeps repeatIndex).run] at hran
    exact congrArg (·.2.2) hran
  · have hbatch := (measure_keeps (o := o) (p := p) repeatIndex).alike r.batch before records
    rwa [← hran] at hbatch
  · cases hf : firstFailure? before (schedule o p r.batch.window.stride) with
    | none =>
      have hanswer : ran.1.1 = .ok _ := answer_ok repeatIndex before records hl hb hf
      refine ⟨?_, by rw [hphase, hanswer, Phase.of]⟩
      rw [hanswer, measurement, Rig.readings_eq, count_now_schedule]
      rfl
    | some status =>
      obtain ⟨chunk, requests, hanswer, hact⟩ := answer_failed_at repeatIndex before records hl hb hf
      have hanswer : ran.1.1 = _ := hanswer
      rw [acts_stages hb.ids hchunk] at hact
      exact ⟨by rw [hphase, hanswer, Phase.of], chunk, requests, hanswer, hact⟩

theorem a_trial_ends_well_or_at_a_failed_step :
    let o : TrialOptions := { shared := true, chunkSize := 2 }
    let r : Runner := { batch := (Batch.empty 4 1).add ⟨9, 9, [9], true⟩ }
    let clock : SteppingClock := { step := 5 }
    let willing : ScriptedEngine := { script := {} }
    let failing : ScriptedEngine := { script := { failAt := [(3, 7)] } }
    (∃ calls, List.Forall₂ Act.Describes (script o ⟨3, 2, 2⟩) calls ∧
      Course willing calls ((r.run o ⟨3, 2, 2⟩ 0).calls (⟨willing, clock⟩ : Rig ScriptedEngine _)) none ∧
      ((r.run o ⟨3, 2, 2⟩ 0).run (⟨willing, clock⟩ : Rig ScriptedEngine _) #[]).1.1 =
        .ok (.ofTimings ⟨3, 2, 2⟩ 0 true (secondsBetween 5 10) (secondsBetween 15 20))) ∧
    ∃ calls status, List.Forall₂ Act.Describes (script o ⟨3, 2, 2⟩) calls ∧
      Course failing calls ((r.run o ⟨3, 2, 2⟩ 0).calls (⟨failing, clock⟩ : Rig ScriptedEngine _)) (some status) ∧
      ((r.run o ⟨3, 2, 2⟩ 0).run (⟨failing, clock⟩ : Rig ScriptedEngine _) #[]).1.2.phase = .aborted ∧
      (script o ⟨3, 2, 2⟩)[8]? = some (.decode 0 [⟨0, 4, [0], true⟩, ⟨0, 4, [1], true⟩]) := by
  intro o r clock willing failing
  have halike : (Batch.empty 4 1).Alike r.batch := ⟨rfl, rfl⟩
  have hdone : ((r.run o ⟨3, 2, 2⟩ 0).run (⟨willing, clock⟩ : Rig ScriptedEngine _) #[]).1.2.phase = .done := by
    decide +kernel
  have haborted : ((r.run o ⟨3, 2, 2⟩ 0).run (⟨failing, clock⟩ : Rig ScriptedEngine _) #[]).1.2.phase = .aborted := by
    decide +kernel
  constructor
  · obtain ⟨calls, failure, hdescribes, hcourse, -, -, -, hanswer⟩ :=
      run_follows_script willing clock #[] (o := o) (by decide) (p := ⟨3, 2, 2⟩) 0 halike (by decide) (by decide)
    cases failure with
    | none => exact ⟨calls, hdescribes, hcourse, hanswer.1⟩
    | some status => cases hdone.symm.trans hanswer.1
  · obtain ⟨calls, failure, hdescribes, hcourse, -, -, -, hanswer⟩ :=
      run_follows_script failing clock #[] (o := o) (by decide) (p := ⟨3, 2, 2⟩) 0 halike (by decide) (by decide)
    cases failure with
    | none => cases haborted.symm.trans hanswer.2
    | some status => exact ⟨calls, status, hdescribes, hcourse, haborted, by decide⟩

end Runs

end DecodeBench.Trial
