import DecodeBench.Proofs.Trial.Schedule

/-! Trials and their batch: a trial leaves it able to take what it took before, and does not end well
if the batch has no room for a part of it. -/

namespace DecodeBench

namespace Batch

lemma fillFrom_full {request : Nat → Request} {count k : Nat} {b : Batch} (hsize : b.size ≤ b.capacity)
    (hfull : b.capacity < b.size + count) : ∃ e, (b.fillFrom request count k).1 = .error e := by
  induction count generalizing k b with
  | zero => omega
  | succ count ih =>
    rw [fillFrom]
    cases hr : b.refusal? (request k) with
    | some e => exact ⟨e, rfl⟩
    | none =>
      have hlt : b.size < b.capacity := by
        rw [refusal?] at hr
        split_ifs at hr
        omega
      have hadd : (b.add (request k)).size = b.size + 1 := Window.size_push b.window (request k)
      have hcapacity : (b.add (request k)).capacity = b.capacity := rfl
      exact ih (by omega) (by omega)

end Batch

namespace Step

variable {α β : Type}

def FailsBelow (x : Step α) (room : Nat) : Prop :=
  ∀ b, b.capacity < room → (x.plan b).Always fun r => ∃ e, r.1 = .error e

variable {room : Nat}

lemma FailsBelow.bind {x : Step α} (h : x.FailsBelow room) (f : α → Step β) : (x >>= f).FailsBelow room := by
  intro b hb
  rw [plan_bind]
  refine (h b hb).bind fun r hr => ?_
  obtain ⟨e, he⟩ := hr
  rcases r with ⟨e' | a, b'⟩
  · exact ⟨e', rfl⟩
  · cases he

lemma failsBelow_bind {x : Step α} {f : α → Step β} (h : x.Keeps) (hf : ∀ a, (f a).FailsBelow room) :
    (x >>= f).FailsBelow room := by
  intro b hb
  rw [plan_bind]
  refine (h b).bind fun r hr => ?_
  rcases r with ⟨e | a, b'⟩
  · exact ⟨e, rfl⟩
  · exact hf a b' (by rwa [hr.capacity])

lemma failsBelow_fill (request : Nat → Request) (count : Nat) (f : Unit → Step β) :
    (clearBatch >>= fun _ => fill request count >>= f).FailsBelow count := by
  rw [← bind_assoc]
  refine FailsBelow.bind (fun b hb => ?_) f
  have hsize : b.clear.size = 0 := rfl
  have hcapacity : b.clear.capacity = b.capacity := rfl
  exact Batch.fillFrom_full (by omega) (by omega)

end Step

namespace Trial

open Step

variable {o : TrialOptions} {p : GridPoint}

lemma branch_keeps (prompt : Span) (count first : Nat) : (branch prompt count first).Keeps := by
  induction count generalizing first with
  | zero => exact keeps_pure ()
  | succ count ih => exact keeps_bind (keeps_call _) fun _ => ih (first + 1)

lemma sharePrompt_keeps : (sharePrompt Step.enter p o).Keeps := by
  rw [sharePrompt]
  split
  · refine keeps_bind (keeps_enter _) fun _ => ?_
    split
    · exact branch_keeps _ _ _
    · exact keeps_pure ()
  · exact keeps_pure ()

lemma generate_keeps (count generated : Nat) : (generate Step.enter p o count generated).Keeps := by
  induction count generalizing generated with
  | zero => exact keeps_pure ()
  | succ count ih =>
    refine keeps_bind (keeps_enter _) fun _ => ?_
    refine keeps_bind keeps_clearBatch fun _ => ?_
    refine keeps_bind (keeps_fill _ _) fun _ => ?_
    refine keeps_bind (keeps_submitBatch _) fun _ => ?_
    exact ih (generated + 1)

lemma measure_keeps (repeatIndex : Nat) : (measure Step.enter o p repeatIndex).Keeps := by
  refine keeps_bind (keeps_enter _) fun _ => ?_
  refine keeps_bind (keeps_call .clear) fun _ => ?_
  refine keeps_bind keeps_clearBatch fun _ => ?_
  refine keeps_bind (keeps_enter _) fun _ => ?_
  refine keeps_bind (keeps_fill _ _) fun _ => ?_
  refine keeps_bind keeps_wantLast fun _ => ?_
  refine keeps_bind (keeps_enter _) fun _ => ?_
  refine keeps_bind (keeps_call .now) fun _ => ?_
  refine keeps_bind (keeps_submitBatch _) fun _ => ?_
  refine keeps_bind sharePrompt_keeps fun _ => ?_
  refine keeps_bind (keeps_call .now) fun _ => ?_
  refine keeps_bind keeps_clearBatch fun _ => ?_
  refine keeps_bind (keeps_call .now) fun _ => ?_
  refine keeps_bind (generate_keeps _ _) fun _ => ?_
  exact keeps_bind (keeps_call .now) fun _ => keeps_pure _

lemma generate_failsBelow {count : Nat} (hcount : 0 < count) (generated : Nat) :
    (generate Step.enter p o count generated).FailsBelow p.parallelism := by
  obtain ⟨count, rfl⟩ := Nat.exists_eq_succ_of_ne_zero (Nat.ne_of_gt hcount)
  refine failsBelow_bind (keeps_enter _) fun _ => ?_
  exact failsBelow_fill _ _ _

lemma measure_failsBelow_prompt (repeatIndex : Nat) :
    (measure Step.enter o p repeatIndex).FailsBelow (p.promptLength * p.promptCopies o.shared) := by
  refine failsBelow_bind (keeps_enter _) fun _ => ?_
  refine failsBelow_bind (keeps_call .clear) fun _ => ?_
  exact failsBelow_fill _ _ _

lemma measure_failsBelow_step (repeatIndex : Nat) (hgen : 0 < p.genLength) :
    (measure Step.enter o p repeatIndex).FailsBelow p.parallelism := by
  refine failsBelow_bind (keeps_enter _) fun _ => ?_
  refine failsBelow_bind (keeps_call .clear) fun _ => ?_
  refine failsBelow_bind keeps_clearBatch fun _ => ?_
  refine failsBelow_bind (keeps_enter _) fun _ => ?_
  refine failsBelow_bind (keeps_fill _ _) fun _ => ?_
  refine failsBelow_bind keeps_wantLast fun _ => ?_
  refine failsBelow_bind (keeps_enter _) fun _ => ?_
  refine failsBelow_bind (keeps_call .now) fun _ => ?_
  refine failsBelow_bind (keeps_submitBatch _) fun _ => ?_
  refine failsBelow_bind sharePrompt_keeps fun _ => ?_
  refine failsBelow_bind (keeps_call .now) fun _ => ?_
  refine failsBelow_bind keeps_clearBatch fun _ => ?_
  refine failsBelow_bind (keeps_call .now) fun _ => ?_
  exact (generate_failsBelow hgen 0).bind _

lemma holds_of_ok {σ : Type} [Testbed σ] {r : Runner} {repeatIndex : Nat} {s : σ} {rs : Array Record} {m : Measurement}
    (hids : 1 ≤ r.batch.window.stride) (h : ((r.run o p repeatIndex).run s rs).1.1 = .ok m) : Holds r.batch o p := by
  have hroom : ∀ {room}, (measure Step.enter o p repeatIndex).FailsBelow room → room ≤ r.batch.capacity := by
    intro room hf
    by_contra hlt
    obtain ⟨e, he⟩ := (Plan.Always.run (hf r.batch (Nat.lt_of_not_le hlt)) s rs).1
    rw [run_answer] at h
    cases he.symm.trans h
  exact ⟨hroom (measure_failsBelow_prompt repeatIndex), fun hgen => hroom (measure_failsBelow_step repeatIndex hgen), hids⟩

end Trial

end DecodeBench
