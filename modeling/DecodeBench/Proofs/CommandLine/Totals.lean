import DecodeBench.Proofs.CommandLine.WrittenLines
import DecodeBench.Proofs.Json.RoundTrip
import DecodeBench.Proofs.Sweep.Failures
import DecodeBench.Proofs.Sweep.Totals
import DecodeBench.Transformer.Processor

/-! The program as a whole: which arguments it succeeds with, what it writes then, and what the counters
of its engine show in the end. -/

namespace DecodeBench

open Cache Model Transformer

namespace CommandLine

open Sweep (Config headline)

variable {s : Settings} {device : Device} {d : Dimensions}

namespace Settings

lemma Gridded.fault?_eq_none (h : s.Gridded) : s.config.fault? = none ↔
    (∀ n ∈ s.parallelism, n ≠ 0 ∧ n ≤ maxSequences) ∧ s.repeatCount ≠ 0 ∧ s.cells ≠ 0 ∧ s.batch ≠ 0 := by
  rw [Config.fault?_eq_none]
  exact ⟨fun hc => hc.2.2.2, fun hc => ⟨h.promptLengths.ne_nil, h.genLengths.ne_nil, h.parallelism.ne_nil, hc⟩⟩

lemma suits (hd : d.fault? = none) (hcomputes : Terms.Computes ⟨d, s.limits, device, .binary32⟩)
    (hvalid : s.config.fault? = none) : Sweep.Suits ⟨d, s.limits, device, .binary32⟩ s.config := by
  obtain ⟨-, -, -, hparallelism, -, -, hchunk⟩ := Config.fault?_eq_none.1 hvalid
  exact {
    cells := Nat.le_refl _
    batch := Nat.le_refl _
    chunk := Nat.pos_of_ne_zero hchunk
    sequences := show 0 < maxSequences by decide
    parallelism := fun n hn => (hparallelism n hn).2
    vocabulary := Dimensions.vocabulary_pos hd
    computes := hcomputes }

end Settings

section Runs

variable {host : Host Id} {κ : Type} [Clock κ] (clock : κ) {arguments : List String}

lemma run_eq (hparse : parse arguments = .ok s) (hdevice : host.device s.gpuLayers = .ok device)
    (hload : Source.load host.files host.hub s.model s.revision = .ok d) :
    run host clock arguments = match State.create d s.limits device .binary32 with
      | .error fault => (StartFault.setup fault).response
      | .ok fresh => Job.run ⟨fresh, s.config, s.format⟩ clock := by
  rw [run, hparse]
  simp only [Job.start, bind, pure, hdevice, hload, Job.create]
  cases State.create d s.limits device .binary32 <;> rfl

lemma Settings.plan?_eq (hbatch : Batch.fitsMemory (max s.cells s.warmup) 1 = true) :
    Sweep.plan? s.config = some (Sweep.run s.config) := by
  have hfits : Batch.fitsMemory s.config.batchCapacity 1 = true := hbatch
  rw [Sweep.plan?, Config.fitsMemory, hfits, Bool.or_true, if_pos rfl]

lemma Job.run_eq (hbatch : Batch.fitsMemory (max s.cells s.warmup) 1 = true) {fresh : State}
    {result : Except Failure (List Record)} {bed : Rig State κ} {records : List Record}
    (hrun : (Sweep.run s.config).run (⟨fresh, clock⟩ : Rig State κ) #[] = (result, bed, records.toArray)) :
    Job.run ⟨fresh, s.config, s.format⟩ clock = { conclude result bed.engine with
      output := Report.headerBytes s.format ++ records.flatMap (Report.recordBytes s.format) } := by
  rw [run, plan?, Settings.plan?_eq hbatch]
  simp only [hrun]

lemma Job.run_of_valid (hd : d.fault? = none) (hcomputes : Terms.Computes ⟨d, s.limits, device, .binary32⟩)
    (hvalid : s.config.fault? = none) (hbatch : Batch.fitsMemory (max s.cells s.warmup) 1 = true) {fresh : State}
    (hcreate : State.create d s.limits device .binary32 = .ok fresh) :
    ∃ records, ∃ bed : Rig State κ,
      (Sweep.run s.config).run (⟨fresh, clock⟩ : Rig State κ) #[] = (.ok records, bed, records.toArray) ∧
      bed.engine.statistics = ({} : Statistics).plus s.config.calls ∧
      records.map headline = s.config.points.flatMap s.config.headlines ∧
      Job.run ⟨fresh, s.config, s.format⟩ clock =
        { output := Report.headerBytes s.format ++ records.flatMap (Report.recordBytes s.format)
          log := summary records bed.engine } := by
  have hsuits := Settings.suits hd hcomputes hvalid
  have hfresh : (⟨fresh, clock⟩ : Rig State κ).engine.Balanced ⟨d, s.limits, device, .binary32⟩ {} :=
    State.create_balanced hcreate
  have hnone := Sweep.firstFailure?_calls hsuits hfresh ((Nat.zero_add _).symm ▸ hsuits.room)
  obtain ⟨records, hrun, hheadlines⟩ :=
    Sweep.run_of_no_failure (Sweep.Config.validate_of_faultless hvalid) hnone #[]
  rw [Array.empty_append] at hrun
  refine ⟨records, _, hrun, ?_, hheadlines, Job.run_eq clock hbatch hrun⟩
  rw [hfresh.statistics_of_no_failure hnone, hfresh.statistics]

end Runs

end CommandLine

end DecodeBench
