import DecodeBench.Proofs.Cache.Growth
import DecodeBench.Proofs.Engine.Tally
import DecodeBench.Proofs.Trial.Fit
import DecodeBench.Proofs.Trial.Room

/-! What the tokens of a trial see when they are decoded: the tokens of their own sequence up to
themselves, whether the sequences share the prompt or not. -/

namespace DecodeBench

open Cache Model Trial Testbed

namespace Transformer

variable {t : Terms} {κ : Type} [Clock κ] {σ : Rig State κ} {l : Ledger}

namespace State.Balanced

lemma showsHistory (h : σ.engine.Balanced t l) {before after : List Call} {w : Window}
    (hadds : ∀ c ∈ before ++ .decode w :: after, c.Adds) (hok : firstFailure? σ (before ++ .decode w :: after) = none)
    (hg : Gapless (l.entries ++ (decoded (before ++ .decode w :: after)).map entry)) {q : Request} (hq : q ∈ w.toList)
    {id : Nat} (hid : id ∈ q.sequences) :
    (Engine.after σ.engine (before ++ [.decode w])).table.ShowsHistory id q.position := by
  rw [List.append_cons] at hadds hok hg
  rw [firstFailure?_append, Option.or_eq_none_iff] at hok
  rw [decoded_append, List.map_append, ← List.append_assoc] at hg
  have hentries := h.entries_after (fun c hc => hadds c (List.mem_append_left _ hc)) hok.1
  have hbalanced := h.after (before ++ [.decode w])
  have hmem : entry q ∈ (l.after t (before ++ [.decode w])).entries := by
    rw [hentries]
    refine List.mem_append_right _ (List.mem_map_of_mem ?_)
    simp [Call.requests, hq]
  have hvalid : t.Valid w.toList := by
    have hlast := hok.1
    rw [firstFailure?_append, Option.or_eq_none_iff, firstFailure?, Option.or_eq_none_iff] at hlast
    exact (Ledger.status_eq_zero.1 ((h.after_engine before).status_of_no_failure hlast.2.1)).1
  have hseen : id ∈ (entry q).sequences := by
    refine (SequenceSet.mem_ofList fun x hx => ?_).2 hid
    exact Nat.lt_of_lt_of_le ((hvalid.2.2 q hq).2.2 x hx) h.sequences_le
  rw [← hentries] at hg
  exact hbalanced.table.showsHistory hg.of_append hmem hseen

end State.Balanced

lemma Ledger.level_shares {count length : Nat} (h : Level count length l.entries) (hpos : 0 < count) (more : Nat)
    (hc : count + more ≤ maxSequences) :
    Level (count + more) length (l.after t ((List.range' count more).map (.share 0 · ⟨0, length⟩))).entries := by
  induction more generalizing l count with
  | zero => exact h
  | succ more ih =>
    have hone : Level (count + 1) length (l.perform t (.share 0 count ⟨0, length⟩)).entries :=
      h.share hpos (by omega)
    rw [List.range'_succ, List.map_cons, Ledger.after_cons, show count + (more + 1) = count + 1 + more by omega]
    exact ih hone (Nat.succ_pos count) (by omega)

section Entries

variable {o : TrialOptions} {p : GridPoint} {stride : Nat}

lemma entries_promptRequests : (promptRequests p o).map entry = rows (p.promptCopies o.shared) 0 p.promptLength := by
  have hmodify : ∀ (rs : List Request) (k : Nat),
      (rs.modify k fun r => { r with wantsLogits := true }).map entry = rs.map entry := by
    intro rs k
    apply List.ext_getElem?
    intro i
    rw [List.getElem?_map, List.getElem?_modify, List.getElem?_map]
    cases rs[i]? with
    | none => rfl
    | some r =>
      simp only [Option.map_eq_map, Option.map_some]
      split <;> rfl
  rw [promptRequests, hmodify, rows_eq_map, List.map_map]
  rfl

lemma entries_stepRequests :
    ((List.range p.genLength).flatMap (stepRequests p o)).map entry = rows p.parallelism p.promptLength p.genLength := by
  rw [List.map_flatMap, rows, List.range'_eq_map_range, List.flatMap_map]
  congr 1
  funext i
  rw [stepRequests, List.map_map]
  rfl

lemma Ledger.level_prompt (hentries : l.entries = rows (p.promptCopies o.shared) 0 p.promptLength)
    (hp : p.parallelism ≤ maxSequences) : ∃ count, p.parallelism ≤ count ∧
      Level count p.promptLength (l.after t (scheduled o.chunkSize (shareStages o p))).entries := by
  rw [shareStages]
  split_ifs with hshared
  · have hcalls : scheduled o.chunkSize ((List.range' 1 (p.parallelism - 1)).map (.share · ⟨0, p.promptLength⟩)) =
        (List.range' 1 (p.parallelism - 1)).map (.share 0 · ⟨0, p.promptLength⟩) := by
      rw [scheduled, List.flatMap_map]
      exact List.map_eq_flatMap.symm
    have hone : Level 1 p.promptLength l.entries := by
      rw [hentries, GridPoint.promptCopies, if_pos hshared.1]
      exact level_rows (by decide) _
    refine ⟨1 + (p.parallelism - 1), by omega, ?_⟩
    rw [hcalls]
    exact Ledger.level_shares hone Nat.one_pos _ (by rw [maxSequences] at hp ⊢; omega)
  · refine ⟨p.parallelism, Nat.le_refl _, ?_⟩
    change Level _ _ l.entries
    rw [hentries]
    by_cases hs : o.shared = true
    · have hzero : p.promptLength = 0 := not_not.1 fun hne => hshared ⟨hs, hne⟩
      rw [hzero]
      exact level_nil _
    · rw [GridPoint.promptCopies, if_neg hs]
      exact level_rows hp _

lemma adds_promptCalls : ∀ c ∈ promptCalls o p stride, c.Adds := by
  intro c hc
  rcases List.mem_cons.1 hc with rfl | hc
  · trivial
  · exact adds_decodes _ c hc

lemma adds_stepCalls : ∀ c ∈ stepCalls o p stride, c.Adds := by
  intro c hc
  obtain ⟨stage, hstage, hc⟩ := List.mem_flatMap.1 hc
  simp only [stepStages, List.mem_append, List.mem_cons, List.mem_map, List.not_mem_nil, or_false] at hstage
  rcases hstage with (rfl | rfl) | ⟨i, -, rfl⟩ | rfl
  · cases List.mem_singleton.1 hc
    trivial
  · cases List.mem_singleton.1 hc
    trivial
  · exact adds_decodes _ c hc
  · cases List.mem_singleton.1 hc
    trivial

end Entries

end Transformer

namespace Trial

open Transformer

lemma split_at_call {before after cs ds : List Call} {c : Call} (h : before ++ c :: after = cs ++ ds) :
    (∃ after', cs = before ++ c :: after') ∨ ∃ before', before = cs ++ before' ∧ ds = before' ++ c :: after := by
  rcases List.append_eq_append_iff.1 h with ⟨rest, hcs, hrest⟩ | ⟨rest, hbefore, hds⟩
  · cases rest with
    | nil => exact .inr ⟨[], by simp [hcs], by simpa using hrest.symm⟩
    | cons c' rest =>
      obtain ⟨rfl, -⟩ := List.cons.inj hrest
      exact .inl ⟨rest, hcs⟩
  · exact .inr ⟨rest, hbefore, hds⟩

lemma not_decode_share {o : TrialOptions} {p : GridPoint} {w : Window} :
    Call.decode w ∉ scheduled o.chunkSize (shareStages o p) := by
  intro hw
  obtain ⟨stage, hstage, hw⟩ := List.mem_flatMap.1 hw
  rw [shareStages] at hstage
  split_ifs at hstage
  · obtain ⟨target, -, rfl⟩ := List.mem_map.1 hstage
    cases List.mem_singleton.1 hw
  · cases hstage

lemma promptCopies_le {o : TrialOptions} {p : GridPoint} (hp : p.parallelism ≤ maxSequences) :
    p.promptCopies o.shared ≤ maxSequences := by
  rw [GridPoint.promptCopies]
  split
  · decide
  · exact hp

lemma schedule_showsHistory {t : Terms} {κ : Type} [Clock κ] {σ : Rig State κ} {l : Ledger} (h : σ.engine.Balanced t l)
    {o : TrialOptions} {p : GridPoint} {stride : Nat} (hchunk : 1 ≤ o.chunkSize) (hstride : 1 ≤ stride)
    (hp : p.parallelism ≤ maxSequences) (hok : firstFailure? σ (schedule o p stride) = none) {before after : List Call}
    {w : Window} (hsplit : schedule o p stride = before ++ .decode w :: after) {q : Request} (hq : q ∈ w.toList) {id : Nat}
    (hid : id ∈ q.sequences) : (Engine.after σ.engine (before ++ [.decode w])).table.ShowsHistory id q.position := by
  rw [schedule_eq] at hsplit
  rw [schedule_eq, firstFailure?, Option.or_eq_none_iff, firstFailure?_append, Option.or_eq_none_iff,
    firstFailure?_append, Option.or_eq_none_iff] at hok
  obtain ⟨-, hprompt, -, hsteps⟩ := hok
  have hclear := h.perform_engine .clear
  cases before with
  | nil => cases hsplit
  | cons c before =>
    obtain ⟨hc, hrest⟩ := List.cons.inj hsplit
    subst hc
    rcases split_at_call hrest.symm with ⟨after', hin⟩ | ⟨before, rfl, hshare⟩
    -- The call is a chunk of the prompt: the cells so far are the first of those that the whole prompt takes.
    · have hadds : ∀ c ∈ promptCalls o p stride, c.Adds := adds_promptCalls
      have hdecoded := decoded_promptCalls (o := o) (p := p) hstride hchunk
      rw [hin] at hprompt hadds hdecoded
      refine hclear.showsHistory hadds hprompt ?_ hq hid
      rw [hdecoded, entries_promptRequests]
      exact (level_rows (promptCopies_le hp) p.promptLength).gapless
    · rcases split_at_call hshare.symm with ⟨after', hin⟩ | ⟨before, rfl, hin⟩
      · exact absurd (hin ▸ List.mem_append_right _ List.mem_cons_self) not_decode_share
      -- It is a chunk of a step: the sequences are level when the steps begin, and grow row by row from there.
      · have hadds : ∀ c ∈ stepCalls o p stride, c.Adds := adds_stepCalls
        have hdecoded := decoded_stepCalls (o := o) (p := p) hstride hchunk
        have hfilled := hclear.entries_after adds_promptCalls hprompt
        rw [decoded_promptCalls hstride hchunk, entries_promptRequests] at hfilled
        obtain ⟨count, hle, hlevel⟩ := Ledger.level_prompt hfilled hp
        rw [hin] at hsteps hadds hdecoded
        have hshows := ((hclear.after_engine _).after_engine _).showsHistory hadds hsteps
          (by rw [hdecoded, entries_stepRequests]; exact hlevel.gapless_rows hle hp _) hq hid
        rw [Rig.after_engine, Rig.after_engine, Rig.perform_engine] at hshows
        simpa using hshows

theorem tokens_see_their_history {d : Dimensions} {limits : Limits} {device : Device} {format : NumberFormat} {fresh : State}
    (hcreate : State.create d limits device format = .ok fresh) (history : List Call) {κ : Type} [Clock κ] (clock : κ)
    (records : Array Record) {o : TrialOptions} (hchunk : 1 ≤ o.chunkSize) {p : GridPoint}
    (hparallelism : p.parallelism ≤ limits.sequences) (repeatIndex : Nat) {r : Runner} {capacity ids : Nat}
    (halike : (Batch.empty capacity ids).Alike r.batch) {m : Measurement} :
    let start : Rig State κ := ⟨Engine.after fresh history, clock⟩
    let calls := (r.run o p repeatIndex).calls start
    ((r.run o p repeatIndex).run start records).1.1 = .ok m →
      decoded calls = promptRequests p o ++ (List.range p.genLength).flatMap (stepRequests p o) ∧
        ∀ before w after, calls = before ++ .decode w :: after → ∀ q ∈ w.toList, ∀ id ∈ q.sequences,
          (Engine.after start.engine (before ++ [.decode w])).table.ShowsHistory id q.position := by
  intro start calls hrun
  have hs : start.engine.Balanced _ _ := (State.create_balanced hcreate).after history
  have hl : o.chunkSize ≠ 0 := Nat.ne_of_gt hchunk
  have hstride := halike.stride_pos
  have hb := holds_of_ok hstride hrun
  have hok : firstFailure? start (schedule o p r.batch.window.stride) = none := by
    by_contra hne
    obtain ⟨status, hstatus⟩ := Option.ne_none_iff_exists'.1 hne
    obtain ⟨chunk, hfailed⟩ := answer_failed repeatIndex start records hl hb hstatus
    cases hfailed.symm.trans hrun
  have hcalls : calls = schedule o p r.batch.window.stride := by
    rw [← untilFailure_eq_self hok]
    exact calls_eq repeatIndex start hl hb
  rw [hcalls]
  refine ⟨decoded_schedule hstride hchunk, fun before w after hsplit q hq id hid => ?_⟩
  exact schedule_showsHistory hs hchunk hstride (Nat.le_trans hparallelism hs.sequences_le) hok hsplit hq hid

theorem both_sequences_go_on_from_a_shared_prompt :
    let o : TrialOptions := { shared := true, chunkSize := 1 }
    let r : Runner := { batch := .empty 2 1 }
    ∃ fresh, State.create .tiny { cells := 4, batch := 4 } processor .binary32 = .ok fresh ∧
      let start : Rig State NoClock := ⟨fresh, ⟨⟩⟩
      let calls := (r.run o ⟨2, 1, 2⟩ 0).calls start
      (∃ m, ((r.run o ⟨2, 1, 2⟩ 0).run start #[]).1.1 = .ok m) ∧
        decoded calls = [⟨0, 0, [0], false⟩, ⟨0, 1, [0], true⟩, ⟨0, 2, [0], true⟩, ⟨0, 2, [1], true⟩] ∧
        ∀ before w after, calls = before ++ .decode w :: after → ⟨0, 2, [1], true⟩ ∈ w.toList →
          (Engine.after fresh (before ++ [.decode w])).table.ShowsHistory 1 2 := by
  intro o r
  have hcreate : State.create .tiny { cells := 4, batch := 4 } processor .binary32 = .ok _ := rfl
  have hsuits : Terms.Suits ⟨.tiny, { cells := 4, batch := 4 }, processor, .binary32⟩ o ⟨2, 1, 2⟩ := by
    constructor <;> decide
  have hb : Holds r.batch o ⟨2, 1, 2⟩ := by
    constructor <;> decide
  have hfits := (State.create_balanced hcreate).firstFailure?_schedule (κ := NoClock) (σ := ⟨_, ⟨⟩⟩)
    (Terms.computes_processor _ _) hsuits hb.ids
  have hok := answer_ok 0 _ #[] (by decide) hb hfits
  obtain ⟨hdecoded, hseen⟩ := tokens_see_their_history hcreate [] (⟨⟩ : NoClock) #[] (o := o) (by decide) (p := ⟨2, 1, 2⟩)
    (by decide) 0 (.refl (.empty 2 1)) hok
  refine ⟨_, hcreate, ⟨_, hok⟩, hdecoded.trans (by decide), fun before w after hsplit hw => ?_⟩
  exact hseen before w after hsplit _ hw 1 (by decide)

end Trial

end DecodeBench
