import DecodeBench.Proofs.Trial.Room

/-! The trials of a sweep one after another, on one testbed and with one batch. -/

namespace DecodeBench.Sweep

structure Bench (σ : Type) where
  batch : Batch
  bed : σ

namespace Bench

variable {σ : Type} [Testbed σ]

def trial (b : Bench σ) (o : TrialOptions) (p : GridPoint) (repeatIndex : Nat) : Except Failure Measurement × Bench σ :=
  let ((answer, runner), bed, _) := (Trial.Runner.run { batch := b.batch } o p repeatIndex).run b.bed #[]
  (answer, ⟨runner.batch, bed⟩)

variable {b : Bench σ} {o : TrialOptions} {p : GridPoint}

lemma trial_eq (repeatIndex : Nat) : b.trial o p repeatIndex =
    let r := ((Trial.measure Step.enter o p repeatIndex).plan b.batch).run b.bed #[]
    (r.1.1, ⟨r.1.2, r.2.1⟩) := by
  rw [← Trial.run_eq (r := { batch := b.batch })]
  rfl

lemma run_measure (repeatIndex : Nat) (before : Array Record) :
    ((Trial.measure Step.enter o p repeatIndex).plan b.batch).run b.bed before =
      (((b.trial o p repeatIndex).1, (b.trial o p repeatIndex).2.batch), (b.trial o p repeatIndex).2.bed, before) := by
  rw [(Trial.measure_keeps repeatIndex).run, trial_eq]

lemma trial_alike (repeatIndex : Nat) : b.batch.Alike (b.trial o p repeatIndex).2.batch := by
  rw [trial_eq]
  exact (Trial.measure_keeps repeatIndex).alike b.batch b.bed #[]

lemma trial_answer (hl : o.chunkSize ≠ 0) (hb : Trial.Holds b.batch o p) (repeatIndex : Nat) :
    (∃ m, (b.trial o p repeatIndex).1 = .ok m ∧ m.point = p ∧ m.repeatIndex = repeatIndex) ∨
      ∃ chunk status, (b.trial o p repeatIndex).1 = .error (.decodeFailed chunk status) := by
  have hanswer : (b.trial o p repeatIndex).1 =
      ((Trial.Runner.run { batch := b.batch } o p repeatIndex).run b.bed #[]).1.1 := rfl
  rw [hanswer]
  cases hf : Testbed.firstFailure? b.bed (Trial.schedule o p b.batch.window.stride) with
  | none =>
    have hok := Trial.answer_ok (r := { batch := b.batch }) repeatIndex b.bed #[] hl hb hf
    exact .inl ⟨_, hok, rfl, rfl⟩
  | some status =>
    obtain ⟨chunk, hfailed⟩ := Trial.answer_failed (r := { batch := b.batch }) repeatIndex b.bed #[] hl hb hf
    exact .inr ⟨chunk, status, hfailed⟩

end Bench

end DecodeBench.Sweep
