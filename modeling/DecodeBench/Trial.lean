import DecodeBench.Batch
import DecodeBench.Chunking

/-! One trial of a grid point. The cache is cleared, the prompt is decoded and, if all sequences
share it, handed on to the others; then every sequence is continued one token at a time. Each of the
two parts is timed on its own. The runner of a trial knows which phase it is in, and says so if the trial
is aborted. -/

namespace DecodeBench

structure TrialOptions where
  shared : Bool := false
  chunkSize : Nat := 4096
  filler : Nat := 0
  deriving DecidableEq, Repr, Inhabited

/-- A step of a trial: it works on the batch, makes calls, and may fail; the batch outlives a failure. -/
abbrev Step (α : Type) := ExceptT Failure (StateT Batch Plan) α

namespace Step

def call (c : Call) : Step c.Answer := ExceptT.lift (StateT.lift (Plan.call c))

def report (r : Record) : Step Unit := ExceptT.lift (StateT.lift (Plan.report r))

def clearBatch : Step Unit := modify Batch.clear

def wantLast : Step Unit := modify Batch.wantLast

def fill (request : Nat → Request) (count : Nat) : Step Unit := ExceptT.mk fun b => .done (b.fill request count)

def submitBatch (limit : Nat) : Step Unit := do
  discard <| ExceptT.mk (StateT.lift (decodeInChunks (← get).window limit))

end Step

namespace GridPoint

def promptCopies (p : GridPoint) (shared : Bool) : Nat := if shared then 1 else p.parallelism

def promptRequest (p : GridPoint) (o : TrialOptions) (k : Nat) : Request where
  token := o.filler
  position := k / p.promptCopies o.shared
  sequences := [k % p.promptCopies o.shared]
  wantsLogits := false

def nextRequest (p : GridPoint) (o : TrialOptions) (generated sequence : Nat) : Request where
  token := o.filler
  position := p.promptLength + generated
  sequences := [sequence]
  wantsLogits := true

end GridPoint

namespace Trial

def branch (prompt : Span) : (count sequence : Nat) → Step Unit
  | 0, _ => pure ()
  | count + 1, sequence => do
    Step.call (.share 0 sequence prompt)
    branch prompt count (sequence + 1)

def secondsBetween (start stop : Nat) : Float :=
  let elapsed := stop - start
  (elapsed / Nat.pow 10 9).toUInt64.toFloat + (elapsed % Nat.pow 10 9).toUInt64.toFloat / 1000000000

inductive Phase where
  | initial
  | prefillBuild
  | prefillSubmit
  | cacheBranch
  | decodeStep (generated : Nat)
  | done
  | aborted
  deriving DecidableEq, Repr, Inhabited

def Phase.name : Phase → String
  | initial => "Init"
  | prefillBuild => "PrefillBuild"
  | prefillSubmit => "PrefillSubmit"
  | cacheBranch => "CacheBranch"
  | decodeStep generated => s!"DecodeStep({generated})"
  | done => "Done"
  | aborted => "Aborted"

section Steps

variable {m : Type → Type} [Monad m] [MonadLiftT Step m]

def sharePrompt (enter : Phase → m Unit) (p : GridPoint) (o : TrialOptions) : m Unit := do
  if o.shared then
    enter .cacheBranch
    if p.promptLength ≠ 0 then
      branch ⟨0, p.promptLength⟩ (p.parallelism - 1) 1

def generate (enter : Phase → m Unit) (p : GridPoint) (o : TrialOptions) : (count generated : Nat) → m Unit
  | 0, _ => pure ()
  | count + 1, generated => do
    enter (.decodeStep generated)
    Step.clearBatch
    Step.fill (p.nextRequest o generated) p.parallelism
    Step.submitBatch o.chunkSize
    generate enter p o count (generated + 1)

/-- The steps of a trial, wherever they can be carried out and a phase can be entered. -/
def measure (enter : Phase → m Unit) (o : TrialOptions) (p : GridPoint) (repeatIndex : Nat) : m Measurement := do
  enter .initial
  Step.call .clear
  Step.clearBatch
  enter .prefillBuild
  Step.fill (p.promptRequest o) (p.promptLength * p.promptCopies o.shared)
  Step.wantLast
  enter .prefillSubmit
  let prefillStart : Nat ← Step.call .now
  Step.submitBatch o.chunkSize
  sharePrompt enter p o
  let prefillStop : Nat ← Step.call .now
  Step.clearBatch
  let decodeStart : Nat ← Step.call .now
  generate enter p o p.genLength 0
  let decodeStop : Nat ← Step.call .now
  return .ofTimings p repeatIndex o.shared
    (secondsBetween prefillStart prefillStop) (secondsBetween decodeStart decodeStop)

end Steps

structure Runner where
  batch : Batch
  phase : Phase := .initial
  warnings : List String := []
  deriving Inhabited

abbrev RunStep (α : Type) := ExceptT Failure (StateT Runner Plan) α

namespace RunStep

def onBatch {α : Type} (x : Step α) : RunStep α := ExceptT.mk fun r => do
  let (outcome, batch) ← x.run.run r.batch
  return (outcome, { r with batch })

instance : MonadLift Step RunStep := ⟨onBatch⟩

def enter (phase : Phase) : RunStep Unit := ExceptT.mk fun r => .done (.ok (), { r with phase })

end RunStep

namespace Runner

def finish (r : Runner) : Except Failure Measurement → Runner
  | .ok _ => { r with phase := .done }
  | .error e =>
    let warning := s!"Trial aborted during {r.phase.name}: {e.message}"
    { r with phase := .aborted, warnings := r.warnings ++ [warning] }

def run (r : Runner) (o : TrialOptions) (p : GridPoint) (repeatIndex : Nat) :
    Plan (Except Failure Measurement × Runner) := do
  let (outcome, r) ← (measure RunStep.enter o p repeatIndex).run.run r
  return (outcome, r.finish outcome)

end Runner

def attempt (o : TrialOptions) (p : GridPoint) (repeatIndex : Nat) : Step (Except Failure Measurement) :=
  ExceptT.mk fun b => do
    let (outcome, r) ← Runner.run { batch := b } o p repeatIndex
    return (.ok outcome, r.batch)

end Trial

end DecodeBench
