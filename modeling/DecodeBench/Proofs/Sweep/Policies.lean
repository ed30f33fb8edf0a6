import DecodeBench.Proofs.Sweep.Failures

/-! What the policies make of a failed decode. Up to the first of them a sweep that skips failures and
one that gives up do the same, call by call. -/

namespace DecodeBench.Sweep

open Testbed

def Config.under (c : Config) (policy : FailurePolicy) : Config := { c with failurePolicy := policy }

def failureOf : Record → Option (Nat × Int)
  | .skipped ⟨_, _, .decodeFailed chunk status⟩ => some (chunk, status)
  | .skipped ⟨_, _, .budgetExceeded⟩ => none
  | .trial _ => none

def untilFailed (rs : List Record) : List Record := rs.takeWhile fun r => (failureOf r).isNone

lemma untilFailed_cons (r : Record) (rs : List Record) : untilFailed (r :: rs) = match failureOf r with
    | none => r :: untilFailed rs
    | some _ => [] := by
  rw [untilFailed, List.takeWhile_cons]
  cases failureOf r <;> rfl

lemma untilFailed_append (rs rs' : List Record) :
    untilFailed (rs ++ rs') = match rs.findSome? failureOf with
      | none => rs ++ untilFailed rs'
      | some _ => untilFailed rs := by
  induction rs with
  | nil => rfl
  | cons r rs ih =>
    rw [List.cons_append, untilFailed_cons, untilFailed_cons, List.findSome?_cons, ih]
    cases failureOf r with
    | none => cases rs.findSome? failureOf <;> rfl
    | some f => rfl

lemma findSome?_trials (ms : List Measurement) : (ms.map Record.trial).findSome? failureOf = none := by
  rw [List.findSome?_eq_none_iff]
  intro r hr
  obtain ⟨m, -, rfl⟩ := List.mem_map.1 hr
  rfl

lemma untilFailed_of_none {rs : List Record} (h : rs.findSome? failureOf = none) : untilFailed rs = rs := by
  have happend := untilFailed_append rs []
  rw [List.append_nil, h] at happend
  rw [happend]
  exact List.append_nil rs

variable {σ : Type} [Testbed σ] {c : Config} {b b' : Bench σ} {end? : Option Failure}

def endOf (rs : List Record) : Option Failure := (rs.findSome? failureOf).map fun f => .decodeFailed f.1 f.2

lemma Sequel.give_up {p : GridPoint} {succeeded : Nat} {failure : Option (Nat × Int)} {rest : List Record}
    (h : Sequel (c.under .skipGridPoint) p succeeded failure rest end?) :
    Sequel (c.under .abortSweep) p succeeded failure (untilFailed rest) (endOf rest) ∧ end? = .none := by
  cases h with
  | none => exact ⟨.none, rfl⟩
  | skipped early => exact ⟨.aborted early rfl, rfl⟩
  | aborted _ policy => cases policy

lemma Block.give_up {p : GridPoint} {rs : List Record} (h : Block (c.under .skipGridPoint) p b rs end? b') :
    Block (c.under .abortSweep) p b (untilFailed rs) (endOf rs) b' ∧ end? = none := by
  cases h with
  | rejected verdict => exact ⟨.rejected verdict, rfl⟩
  | @admitted _ ms failure rest _ verdict trials labels sequel =>
    have htrials : untilFailed (ms.map .trial ++ rest) = ms.map .trial ++ untilFailed rest := by
      rw [untilFailed_append, findSome?_trials]
    have hend : endOf (ms.map .trial ++ rest) = endOf rest := by
      rw [endOf, List.findSome?_append, findSome?_trials, Option.none_or, endOf]
    obtain ⟨hsequel, hnone⟩ := sequel.give_up
    rw [htrials, hend]
    exact ⟨.admitted verdict trials labels hsequel, hnone⟩

lemma Blocks.give_up {ps : List GridPoint} {blocks : List (List Record)}
    (h : Blocks (c.under .skipGridPoint) ps b blocks end? b') :
    (∃ blocks' b₁, Blocks (c.under .abortSweep) ps b blocks' (endOf blocks.flatten) b₁ ∧
      blocks'.flatten = untilFailed blocks.flatten ∧ (endOf blocks.flatten = none → b₁ = b')) ∧ end? = none := by
  induction h with
  | @done b => exact ⟨⟨[], b, .done, rfl, fun _ => rfl⟩, rfl⟩
  | @next p ps b b₁ b₂ rs blocks failure block rest ih =>
    obtain ⟨⟨blocks', b₃, hblocks, hflatten, hsame⟩, hend⟩ := ih
    obtain ⟨hblock, -⟩ := block.give_up
    refine ⟨?_, hend⟩
    rw [List.flatten_cons, untilFailed_append, endOf, List.findSome?_append]
    cases hf : rs.findSome? failureOf with
    | none =>
      rw [untilFailed_of_none hf, endOf, hf] at hblock
      rw [Option.none_or]
      exact ⟨rs :: blocks', b₃, .next hblock hblocks, by rw [List.flatten_cons, hflatten], hsame⟩
    | some f =>
      rw [endOf, hf] at hblock
      exact ⟨[untilFailed rs], b₁, .aborted hblock, List.flatten_singleton, nofun⟩
  | aborted block =>
    obtain ⟨-, hnone⟩ := block.give_up
    cases hnone

lemma Ready.under {s : σ} (h : Ready c s b) (policy : FailurePolicy) : Ready (c.under policy) s b := by
  cases h with
  | cold off => exact .cold off
  | warm on ran => exact .warm on ran

lemma run_under_of_failed_warmup {s : σ} {batch : Batch} {bed : σ} {e : Failure} {before : Array Record}
    (hvalid : c.validate = .ok ()) (on : 0 < c.warmupTokens)
    (ran : ((warmUp (min c.warmupTokens c.cacheBudget) c.chunkSize).plan (.empty c.batchCapacity 1)).run s before =
      ((.error e, batch), bed, before)) (policy : FailurePolicy) :
    (run (c.under policy)).run s before = (.error e, bed, before) :=
  run_of_failed_warmup (c := c.under policy) hvalid on ran

theorem policies_agree_up_to_the_first_failure (hvalid : c.validate = .ok ()) (s : σ) (before : Array Record) :
    let skip := (run (c.under .skipGridPoint)).run s before
    let abort := (run (c.under .abortSweep)).run s before
    (plan? (c.under .skipGridPoint) = none ↔ plan? (c.under .abortSweep) = none) ∧
    ((∃ b, Ready c s b) → ∃ records, skip.1 = .ok records ∧ skip.2.2 = before ++ records.toArray ∧
      abort.2.2 = before ++ (records.takeWhile fun r => (failureOf r).isNone).toArray ∧
      (∀ e, abort.1 = .error e ↔
        ∃ chunk status, e = .decodeFailed chunk status ∧ records.findSome? failureOf = some (chunk, status)) ∧
      (records.findSome? failureOf = none → abort = skip)) ∧
    ((¬ ∃ b, Ready c s b) → abort = skip ∧
      ∃ chunk status, skip.1 = .error (.decodeFailed chunk status) ∧ skip.2.2 = before) := by
  intro skip abort
  refine ⟨by rw [plan?_eq_none, plan?_eq_none]; rfl, ?_, fun hnever => ?_⟩
  · rintro ⟨b, hready⟩
    have hvalid' : ∀ policy, (c.under policy).validate = .ok () := fun _ => hvalid
    obtain ⟨blocks, end?, b', hblocks⟩ := (hready.under .skipGridPoint).exists_blocks (hvalid' _)
    obtain ⟨⟨blocks', b₁, hblocks', hflatten, hsame⟩, rfl⟩ := hblocks.give_up
    have hskip : skip = _ := (hready.under .skipGridPoint).run_of_blocks (hvalid' _) hblocks before
    have habort : abort = _ := (hready.under .abortSweep).run_of_blocks (hvalid' _) hblocks' before
    rw [hflatten] at habort
    refine ⟨blocks.flatten, by rw [hskip]; rfl, by rw [hskip], by rw [habort]; rfl, fun e => ?_, fun hnone => ?_⟩
    · rw [habort, endOf]
      cases blocks.flatten.findSome? failureOf with
      | none => simp [answerOf]
      | some f => simp [answerOf, Prod.ext_iff, eq_comm]
    · have hend : endOf blocks.flatten = none := by rw [endOf, hnone]; rfl
      rw [habort, hskip, hend, hsame hend, untilFailed_of_none hnone]
  · obtain ⟨-, -, hl⟩ := Config.bounds_of_valid hvalid
    cases hf : firstFailure? s (warmupCalls c) with
    | none =>
      obtain ⟨b, hready, -⟩ := exists_ready hl hf
      exact absurd ⟨b, hready⟩ hnever
    | some status =>
      obtain ⟨on, chunk, batch, bed, hwarmup⟩ := exists_failed_warmup hl hf
      have hruns := run_under_of_failed_warmup hvalid on (hwarmup before)
      have hskip : skip = _ := hruns .skipGridPoint
      have habort : abort = _ := hruns .abortSweep
      rw [habort, hskip]
      exact ⟨rfl, chunk, status, rfl, rfl⟩

theorem giving_up_at_the_second_trial :
    let c : Config := {
      promptLengths := [1], genLengths := [1], parallelism := [1, 2], repeatCount := 2
      cacheBudget := 8, chunkSize := 4, warmupTokens := 1 }
    let s : Rig ScriptedEngine NoClock := ⟨{ script := { failAt := [(3, 2)] } }, ⟨⟩⟩
    c.validate = .ok () ∧ (∃ b, Ready c s b) ∧ ∃ records,
      ((run (c.under .skipGridPoint)).run s #[]).1 = .ok records ∧ records.findSome? failureOf = some (0, 2) ∧
      ((run (c.under .abortSweep)).run s #[]).2.2 = #[] ++ (records.takeWhile fun r => (failureOf r).isNone).toArray := by
  intro c s
  have hvalid : c.validate = .ok () := rfl
  let ran := ((warmUp (min c.warmupTokens c.cacheBudget) c.chunkSize).plan (.empty c.batchCapacity 1)).run s #[]
  have hok : ran.1.1 = .ok () := by decide
  have hran : ran = ((.ok (), ran.1.2), ran.2.1, ran.2.2) := by rw [← hok]
  have hready : ∃ b, Ready c s b := ⟨⟨ran.1.2, ran.2.1⟩, .warm (by decide) hran⟩
  obtain ⟨-, hruns, -⟩ := policies_agree_up_to_the_first_failure hvalid s #[]
  obtain ⟨records, hskip, -, habort, hend, -⟩ := hruns hready
  have hanswer : (((run (c.under .abortSweep)).run s #[]).1.map fun _ => ()) = .error (.decodeFailed 0 2) := by
    decide +kernel
  refine ⟨hvalid, hready, records, hskip, ?_, habort⟩
  cases h : ((run (c.under .abortSweep)).run s #[]).1 with
  | ok rs =>
    rw [h] at hanswer
    cases hanswer
  | error e =>
    rw [h] at hanswer
    cases hanswer
    obtain ⟨chunk, status, he, hfirst⟩ := (hend _).1 h
    cases he
    exact hfirst

end DecodeBench.Sweep
