/-! What can go wrong in a sweep, as causes, and the one place where they are put into words. -/

namespace DecodeBench

inductive ConfigFault where
  | emptyGrid
  | noParallelism
  | tooManySequences (parallelism limit : Nat)
  | noRepeats
  | noBudget
  | noChunkSize
  deriving DecidableEq, Repr

def ConfigFault.message : ConfigFault → String
  | .emptyGrid => "prompt, generation and parallelism lists must not be empty"
  | .noParallelism => "parallelism must be at least 1"
  | .tooManySequences parallelism limit => s!"parallelism {parallelism} exceeds the engine's {limit} sequences"
  | .noRepeats => "repeat count must be at least 1"
  | .noBudget => "cache budget must be at least 1"
  | .noChunkSize => "max chunk size must be at least 1"

inductive Failure where
  | batchFull (capacity : Nat)
  | tooManyIds (given limit : Nat)
  | decodeFailed (chunk : Nat) (status : Int)
  | invalidConfig (fault : ConfigFault)
  deriving DecidableEq, Repr

def Failure.message : Failure → String
  | .batchFull capacity => s!"batch capacity exceeded: capacity {capacity}"
  | .tooManyIds given limit => s!"too many sequence ids for one request: given {given}, max {limit}"
  | .decodeFailed chunk status => s!"decode failed on chunk {chunk} with status {status}"
  | .invalidConfig fault => "invalid configuration: " ++ fault.message

def checkStatus (status : Int) : Except Int Unit :=
  if status = 0 then .ok () else .error status

end DecodeBench
