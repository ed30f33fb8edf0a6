import DecodeBench.Failure
import DecodeBench.Grid
import DecodeBench.SequenceSet
import DecodeBench.Trial

/-! The configuration of a sweep: which grid points, how often, and under which limits. -/

namespace DecodeBench.Sweep

inductive FailurePolicy where
  | abortSweep
  | skipGridPoint
  deriving DecidableEq, Repr, Inhabited

structure Config where
  promptLengths : List Nat := [128, 256, 512, 1024, 2048, 3584, 7680]
  genLengths : List Nat := [128, 256]
  parallelism : List Nat := [1, 2, 4, 8, 16, 32]
  repeatCount : Nat := 3
  cacheBudget : Nat := 8192
  shared : Bool := false
  chunkSize : Nat := 4096
  warmupTokens : Nat := 32
  sequenceLimit : Nat := maxSequences
  failurePolicy : FailurePolicy := .abortSweep
  deriving DecidableEq, Repr, Inhabited

namespace Config

def fault? (c : Config) : Option ConfigFault :=
  if c.promptLengths.isEmpty ∨ c.genLengths.isEmpty ∨ c.parallelism.isEmpty then some .emptyGrid
  else if 0 ∈ c.parallelism then some .noParallelism
  else match c.parallelism.find? (fun n => decide (n > c.sequenceLimit)) with
    | some n => some (.tooManySequences n c.sequenceLimit)
    | none =>
      if c.repeatCount = 0 then some .noRepeats
      else if c.cacheBudget = 0 then some .noBudget
      else if c.chunkSize = 0 then some .noChunkSize
      else none

def validate (c : Config) : Except Failure Unit :=
  match c.fault? with
  | some fault => .error (.invalidConfig fault)
  | none => .ok ()

def points (c : Config) : List GridPoint :=
  c.promptLengths.flatMap fun p => c.genLengths.flatMap fun g => c.parallelism.map fun n => ⟨p, g, n⟩

def trialOptions (c : Config) : TrialOptions := { shared := c.shared, chunkSize := c.chunkSize }

/-- An admitted trial needs at most the budget, so one batch of this size serves all of them. -/
def batchCapacity (c : Config) : Nat := max c.cacheBudget c.warmupTokens

def fitsMemory (c : Config) : Bool := c.fault?.isSome || Batch.fitsMemory c.batchCapacity 1

end Config

end DecodeBench.Sweep
