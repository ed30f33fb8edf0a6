import DecodeBench.Proofs.Sweep.WarmUp

/-! A sweep none of whose decodes fails makes all the calls that its configuration asks for, and hands
out one record for each trial and each point that is not admitted. -/

namespace DecodeBench.Sweep

open Testbed Trial

def headline : Record → GridPoint × Nat × (Nat ⊕ SkipReason)
  | .trial m => (m.point, m.requiredSlots, .inl m.repeatIndex)
  | .skipped s => (s.point, s.requiredSlots, .inr s.reason)

namespace Config

def admits (c : Config) (p : GridPoint) : Bool := (p.admission c.shared c.cacheBudget).isAdmitted

def trialCalls (c : Config) (p : GridPoint) (count : Nat) : List Call :=
  (List.replicate count (schedule c.trialOptions p 1)).flatten

def pointCalls (c : Config) (p : GridPoint) : List Call := if c.admits p then c.trialCalls p c.repeatCount else []

def calls (c : Config) : List Call := warmupCalls c ++ c.points.flatMap c.pointCalls

def headlines (c : Config) (p : GridPoint) : List (GridPoint × Nat × (Nat ⊕ SkipReason)) :=
  if c.admits p then (List.range c.repeatCount).map fun k => (p, p.requiredSlots c.shared, .inl k)
  else [(p, p.requiredSlots c.shared, .inr .budgetExceeded)]

lemma trialCalls_succ (c : Config) (p : GridPoint) (count : Nat) :
    c.trialCalls p (count + 1) = schedule c.trialOptions p 1 ++ c.trialCalls p count := by
  rw [trialCalls, List.replicate_succ, List.flatten_cons, trialCalls]

end Config

lemma Sequel.of_none {c : Config} {p : GridPoint} {succeeded : Nat} {rest : List Record} {end? : Option Failure}
    (h : Sequel c p succeeded .none rest end?) : rest = [] ∧ end? = .none := by
  cases h
  exact ⟨rfl, rfl⟩

variable {σ : Type} [Testbed σ] {c : Config} {p : GridPoint} {b b' : Bench σ} (hl : c.chunkSize ≠ 0)
include hl

lemma Bench.trial_of_no_failure (hb : (Batch.empty c.batchCapacity 1).Alike b.batch) (hv : c.admits p = true)
    (hf : firstFailure? b.bed (schedule c.trialOptions p 1) = none) (index : Nat) :
    ∃ m, (b.trial c.trialOptions p index).1 = .ok m ∧
      headline (.trial m) = (p, p.requiredSlots c.shared, .inl index) ∧
      (b.trial c.trialOptions p index).2.bed = after b.bed (schedule c.trialOptions p 1) := by
  have hn : p.need c.trialOptions.shared ≤ b.batch.capacity := by
    rw [hb.capacity]
    exact Nat.le_trans (GridPoint.need_le_of_admitted hv) (Nat.le_max_left ..)
  have hfollows := (holds_of_need_le hn hb.stride_pos).follows index
  rw [show b.batch.window.stride = 1 from hb.stride] at hfollows
  rw [Bench.trial_eq]
  refine ⟨_, hfollows.answer_ok b.bed #[] hl hf, rfl, ?_⟩
  dsimp only
  rw [Plan.run_bed, hfollows.calls_eq b.bed hl, ← schedule]
  exact congrArg (after b.bed) (untilFailure_eq_self hf)

lemma Trials.served {count index : Nat} {ms : List Measurement} {failure : Option (Nat × Int)}
    (h : Trials c.trialOptions p count index b ms failure b') (hb : (Batch.empty c.batchCapacity 1).Alike b.batch)
    (hv : c.admits p = true) (hf : firstFailure? b.bed (c.trialCalls p count) = none) :
    b'.bed = after b.bed (c.trialCalls p count) ∧ (Batch.empty c.batchCapacity 1).Alike b'.batch ∧
      (ms.map Record.trial).map headline =
        (List.range' index count).map (fun k => (p, p.requiredSlots c.shared, .inl k)) ∧ failure = none := by
  induction h with
  | enough => exact ⟨rfl, hb, rfl, rfl⟩
  | @ok count index b b₁ b₂ m ms failure trial rest ih =>
    rw [Config.trialCalls_succ, firstFailure?_append, Option.or_eq_none_iff] at hf
    obtain ⟨m', hm', hheadline, hbed⟩ := Bench.trial_of_no_failure hl hb hv hf.1 index
    have hb₁ := hb.trans (Bench.trial_alike (o := c.trialOptions) (p := p) index)
    rw [trial] at hm' hbed hb₁
    obtain ⟨hlast, hb₂, hrest, hnone⟩ := ih hb₁ (by rw [hbed]; exact hf.2)
    refine ⟨?_, hb₂, ?_, hnone⟩
    · rw [hlast, hbed, Config.trialCalls_succ, after_append]
    · rw [List.map_cons, List.map_cons, hrest, List.range'_succ, List.map_cons, ← hheadline, Except.ok.inj hm']
  | failed trial =>
    rw [Config.trialCalls_succ, firstFailure?_append, Option.or_eq_none_iff] at hf
    obtain ⟨m, hm, -⟩ := Bench.trial_of_no_failure hl hb hv hf.1 _
    rw [trial] at hm
    cases hm

lemma Block.served {rs : List Record} {end? : Option Failure} (h : Block c p b rs end? b')
    (hb : (Batch.empty c.batchCapacity 1).Alike b.batch) (hf : firstFailure? b.bed (c.pointCalls p) = none) :
    b'.bed = after b.bed (c.pointCalls p) ∧ (Batch.empty c.batchCapacity 1).Alike b'.batch ∧
      rs.map headline = c.headlines p ∧ end? = none := by
  cases h with
  | rejected verdict =>
    have hv : c.admits p = false := verdict
    rw [Config.pointCalls, Config.headlines, hv]
    exact ⟨rfl, hb, rfl, rfl⟩
  | admitted verdict trials labels sequel =>
    have hv : c.admits p = true := verdict
    rw [Config.pointCalls, if_pos hv] at hf ⊢
    obtain ⟨hbed, hb', hheadlines, rfl⟩ := trials.served hl hb hv hf
    obtain ⟨rfl, rfl⟩ := sequel.of_none
    rw [List.append_nil, hheadlines, ← List.range_eq_range', Config.headlines, if_pos hv]
    exact ⟨hbed, hb', rfl, rfl⟩

lemma Blocks.served {ps : List GridPoint} {blocks : List (List Record)} {end? : Option Failure}
    (h : Blocks c ps b blocks end? b') (hb : (Batch.empty c.batchCapacity 1).Alike b.batch)
    (hf : firstFailure? b.bed (ps.flatMap c.pointCalls) = none) :
    b'.bed = after b.bed (ps.flatMap c.pointCalls) ∧
      blocks.flatten.map headline = ps.flatMap c.headlines ∧ end? = none := by
  induction h with
  | done => exact ⟨rfl, rfl, rfl⟩
  | next block rest ih =>
    rw [List.flatMap_cons, firstFailure?_append, Option.or_eq_none_iff] at hf
    obtain ⟨hbed, hb₁, hheadlines, -⟩ := block.served hl hb hf.1
    obtain ⟨hlast, hrest, hnone⟩ := ih hb₁ (by rw [hbed]; exact hf.2)
    refine ⟨by rw [hlast, hbed, List.flatMap_cons, after_append], ?_, hnone⟩
    rw [List.flatten_cons, List.map_append, hheadlines, hrest, List.flatMap_cons]
  | aborted block =>
    rw [List.flatMap_cons, firstFailure?_append, Option.or_eq_none_iff] at hf
    obtain ⟨-, -, -, hnone⟩ := block.served hl hb hf.1
    cases hnone

omit hl

lemma run_of_no_failure {s : σ} (hvalid : c.validate = .ok ()) (hf : firstFailure? s c.calls = none)
    (before : Array Record) : ∃ records, (run c).run s before = (.ok records, after s c.calls, before ++ records.toArray) ∧
      records.map headline = c.points.flatMap c.headlines := by
  obtain ⟨-, -, hl⟩ := Config.bounds_of_valid hvalid
  rw [Config.calls, firstFailure?_append, Option.or_eq_none_iff] at hf
  obtain ⟨b, hready, hbed⟩ := exists_ready hl hf.1
  obtain ⟨blocks, end?, b', hblocks, hrun⟩ := hready.run_eq hvalid before
  obtain ⟨hlast, hheadlines, rfl⟩ := hblocks.served hl hready.alike (by rw [hbed]; exact hf.2)
  refine ⟨blocks.flatten, ?_, hheadlines⟩
  rw [hrun, hlast, hbed, Config.calls, after_append]
  rfl

end DecodeBench.Sweep
