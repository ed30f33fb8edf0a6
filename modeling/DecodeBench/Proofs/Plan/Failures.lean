import DecodeBench.Chunking
import DecodeBench.Proofs.Plan.Calls

/-! Calls that are made one after another until a decode fails. -/

namespace DecodeBench

namespace Testbed

variable {σ : Type} [Testbed σ]

def failure? (s : σ) : Call → Option Int
  | .decode w => if (answer (.decode w) s).1 = 0 then none else some (answer (.decode w) s).1
  | _ => none

def firstFailure? (s : σ) : List Call → Option Int
  | [] => none
  | c :: cs => (failure? s c).or (firstFailure? (perform s c) cs)

def untilFailure (s : σ) : List Call → List Call
  | [] => []
  | c :: cs => c :: match failure? s c with
    | none => untilFailure (perform s c) cs
    | some _ => []

def readings (s : σ) : List Call → List Nat
  | [] => []
  | .now :: cs => (answer .now s).1 :: readings (perform s .now) cs
  | c :: cs => readings (perform s c) cs

variable {s : σ} {c : Call} {cs ds : List Call}

lemma firstFailure?_append :
    firstFailure? s (cs ++ ds) = (firstFailure? s cs).or (firstFailure? (after s cs) ds) := by
  induction cs generalizing s with
  | nil => rfl
  | cons c cs ih => rw [List.cons_append, firstFailure?, ih, firstFailure?, Option.or_assoc, after_cons]

lemma untilFailure_eq_self (h : firstFailure? s cs = none) : untilFailure s cs = cs := by
  induction cs generalizing s with
  | nil => rfl
  | cons c cs ih =>
    obtain ⟨hc, hcs⟩ := Option.or_eq_none_iff.1 h
    simp [untilFailure, hc, ih hcs]

lemma untilFailure_append :
    untilFailure s (cs ++ ds) = untilFailure s cs ++ match firstFailure? s cs with
      | none => untilFailure (after s cs) ds
      | some _ => [] := by
  induction cs generalizing s with
  | nil => rfl
  | cons c cs ih =>
    rw [List.cons_append, untilFailure, ih, untilFailure, firstFailure?, after_cons]
    cases failure? s c <;> rfl

lemma exists_first_failure {status : Int} (h : firstFailure? s cs = some status) :
    ∃ before w after', cs = before ++ .decode w :: after' ∧ untilFailure s cs = before ++ [.decode w] ∧
      firstFailure? s before = none ∧ failure? (after s before) (.decode w) = some status := by
  induction cs generalizing s with
  | nil => simp [firstFailure?] at h
  | cons c cs ih =>
    rw [firstFailure?] at h
    cases hc : failure? s c with
    | none =>
      rw [hc, Option.none_or] at h
      obtain ⟨before, w, after', rfl, hmade, hbefore, hw⟩ := ih h
      refine ⟨c :: before, w, after', rfl, ?_, ?_, hw⟩
      · rw [untilFailure, hc, hmade, List.cons_append]
      · rw [firstFailure?, hc, hbefore, Option.none_or]
    | some status' =>
      rw [hc, Option.some_or] at h
      cases c with
      | decode w => exact ⟨[], w, cs, rfl, by rw [untilFailure, hc, List.nil_append], rfl, by rw [← h]; exact hc⟩
      | clear => cases hc
      | share => cases hc
      | now => cases hc

lemma readings_append : readings s (cs ++ ds) = readings s cs ++ readings (after s cs) ds := by
  induction cs generalizing s with
  | nil => rfl
  | cons c cs ih => cases c <;> simp [readings, ih]

lemma readings_decodes (ws : List Window) : readings s (ws.map .decode) = [] := by
  induction ws generalizing s with
  | nil => rfl
  | cons w ws ih => exact ih

end Testbed

namespace Clock

variable {κ : Type} [Clock κ]

def after (c : κ) : (reads : Nat) → κ
  | 0 => c
  | reads + 1 => after (Clock.now c).2 reads

def reading (c : κ) (k : Nat) : Nat := (Clock.now (after c k)).1

end Clock

namespace Rig

open Testbed

variable {ε κ : Type} [Engine ε] [Clock κ]

lemma after_clock (s : Rig ε κ) (cs : List Call) : (after s cs).clock = Clock.after s.clock (cs.count .now) := by
  induction cs generalizing s with
  | nil => rfl
  | cons c cs ih =>
    rw [after_cons, ih, List.count_cons]
    cases c <;> rfl

lemma after_eq (s : Rig ε κ) (cs : List Call) :
    after s cs = ⟨Engine.after s.engine cs, Clock.after s.clock (cs.count .now)⟩ := by
  rw [← after_engine, ← after_clock]

lemma readings_eq (s : Rig ε κ) (cs : List Call) :
    readings s cs = (List.range (cs.count .now)).map (Clock.reading s.clock) := by
  induction cs generalizing s with
  | nil => rfl
  | cons c cs ih =>
    cases c with
    | now =>
      rw [readings, ih, List.count_cons_self, List.range_succ_eq_map, List.map_cons, List.map_map]
      rfl
    | decode w => exact ih _
    | clear => exact ih _
    | share => exact ih _

lemma firstFailure?_eq_none {s : Rig ε κ} {cs : List Call} :
    firstFailure? s cs = none ↔ ∀ status ∈ Engine.statuses s.engine cs, status = 0 := by
  induction cs generalizing s with
  | nil => simp [firstFailure?, Engine.statuses]
  | cons c cs ih =>
    have hc : failure? s c = none ↔ ∀ status ∈ (Engine.status? s.engine c).toList, status = 0 := by
      cases c with
      | decode w => simp [failure?, Engine.status?, Testbed.answer]
      | clear => simp [failure?, Engine.status?]
      | share => simp [failure?, Engine.status?]
      | now => simp [failure?, Engine.status?]
    rw [firstFailure?, Option.or_eq_none_iff, hc, ih, perform_engine, Engine.statuses, List.forall_mem_append]

end Rig

section Submission

open Testbed

lemma decodeInChunks_eq {limit : Nat} (hl : limit ≠ 0) (w : Window) :
    decodeInChunks w limit = submit (w.chunks limit) 0 := if_neg hl

variable {σ : Type} [Testbed σ] {s : σ}

lemma submit_calls (ws : List Window) (submitted : Nat) :
    (submit ws submitted).calls s = untilFailure s (ws.map .decode) := by
  induction ws generalizing s submitted with
  | nil => rfl
  | cons w ws ih =>
    rw [submit, Plan.calls, List.map_cons, untilFailure, failure?]
    split
    · exact congrArg (_ :: ·) (ih (submitted + 1))
    · rfl

lemma submit_cons_run (w : Window) (ws : List Window) (submitted : Nat) (rs : Array Record) :
    (submit (w :: ws) submitted).run s rs =
      if (answer (.decode w) s).1 = 0 then (submit ws (submitted + 1)).run (perform s (.decode w)) rs
      else (.error (.decodeFailed submitted (answer (.decode w) s).1), perform s (.decode w), rs) := by
  have hrun : (submit (w :: ws) submitted).run s rs =
      (if (answer (.decode w) s).1 = 0 then submit ws (submitted + 1)
        else .done (.error (.decodeFailed submitted (answer (.decode w) s).1))).run (perform s (.decode w)) rs := rfl
  rw [hrun]
  split <;> rfl

lemma submit_answer (ws : List Window) (submitted : Nat) (rs : Array Record) :
    ((submit ws submitted).run s rs).1 = match firstFailure? s (ws.map .decode) with
      | none => .ok (submitted + ws.length)
      | some status =>
        .error (.decodeFailed (submitted + ((untilFailure s (ws.map .decode)).length - 1)) status) := by
  induction ws generalizing s submitted with
  | nil => rfl
  | cons w ws ih =>
    rw [submit_cons_run, List.map_cons, untilFailure, firstFailure?, failure?]
    split
    · rw [ih (submitted + 1), Option.none_or, List.length_cons, List.length_cons]
      cases hf : firstFailure? (perform s (.decode w)) (ws.map .decode) with
      | none => simp only [Nat.add_assoc, Nat.add_comm 1]
      | some status =>
        have hpos : 0 < (untilFailure (perform s (.decode w)) (ws.map .decode)).length := by
          cases ws with
          | nil => simp [firstFailure?] at hf
          | cons => simp [untilFailure]
        simp only [Nat.add_sub_cancel]
        congr 2
        omega
    · simp

end Submission

end DecodeBench
