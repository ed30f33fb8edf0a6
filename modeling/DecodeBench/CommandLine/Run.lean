import DecodeBench.CommandLine.Grammar
import DecodeBench.CommandLine.Help
import DecodeBench.Model.Source
import DecodeBench.Sweep.Run
import DecodeBench.Transformer.Engine

/-! A run of the program: the arguments are read, a device is chosen, the model is found and given an
engine, and the sweep is carried out. The header is written before the sweep, so it stands there even if
the sweep fails. -/

namespace DecodeBench.CommandLine

structure Response where
  exitCode : Nat := 0
  output : List UInt8 := []
  error : Option String := none
  log : List String := []
  deriving Inhabited

def Stop.response : Stop → Response
  | .usage fault => { exitCode := 2, error := some fault.message }
  | .help long => { output := Json.utf8 (Help.text long) }
  | .version => { output := Json.utf8 (versionLine ++ "\n") }

/-- What a run takes from the machine it is on. There may be an error in the place of a graphics device, or none of them. -/
structure Host (m : Type → Type) where
  files : FileAccess m
  hub : Model.Hub m
  processor : Transformer.Device
  graphics : Except String (Option Transformer.Device)

def Host.device {m : Type → Type} (host : Host m) (gpuLayers : Nat) : Except String Transformer.Device :=
  if gpuLayers = 0 then .ok host.processor else host.graphics.map (·.getD host.processor)

inductive StartFault where
  | device (reason : String)
  | load (model : String) (fault : Model.LoadFault)
  | setup (fault : Transformer.SetupFault)

def StartFault.message : StartFault → String
  | .device reason => reason
  | .load model fault => "loading model " ++ model ++ ": " ++ fault.message
  | .setup fault => fault.message

def failed (message : String) : Response := { exitCode := 1, error := some message }

def exhausted : Response := { exitCode := 101 }

def StartFault.response : StartFault → Response
  | .setup .outOfMemory => exhausted
  | fault => failed fault.message

namespace Settings

def limits (s : Settings) : Transformer.Limits := { cells := s.cells, batch := s.batch, seed := s.seed }

def config (s : Settings) : Sweep.Config where
  promptLengths := s.promptLengths
  genLengths := s.genLengths
  parallelism := s.parallelism
  repeatCount := s.repeatCount
  cacheBudget := s.cells
  shared := s.shared
  chunkSize := s.batch
  warmupTokens := s.warmup
  sequenceLimit := s.limits.sequences
  failurePolicy := s.failurePolicy

end Settings

structure Job where
  engine : Transformer.State
  config : Sweep.Config
  format : OutputFormat

namespace Job

def create (s : Settings) (device : Transformer.Device) (d : Model.Dimensions) : Except Transformer.SetupFault Job := do
  return { engine := ← Transformer.State.create d s.limits device .binary32, config := s.config, format := s.format }

def start {m : Type → Type} [Monad m] (host : Host m) (s : Settings) : m (Except StartFault Job) := do
  match host.device s.gpuLayers with
  | .error reason => return .error (.device reason)
  | .ok device =>
    match ← Model.Source.load host.files host.hub s.model s.revision with
    | .error fault => return .error (.load s.model fault)
    | .ok d => return (create s device d).mapError .setup

def plan? (j : Job) : Option (Plan (Except Failure (List Record))) := Sweep.plan? j.config

def summary (records : List Record) (engine : Transformer.State) : List String :=
  let s := engine.statistics
  let trials := records.countP (·.isTrial)
  [s!"Sweep finished: {trials} trials, {records.length - trials} skipped",
   s!"  Decode calls: {s.calls} ({s.tokens} tokens, {s.failed} failed)"]

def conclude (result : Except Failure (List Record)) (engine : Transformer.State) : Response :=
  match result with
  | .error failure => failed failure.message
  | .ok records => { log := summary records engine }

def run {κ : Type} [Clock κ] (j : Job) (clock : κ) : Response :=
  let header := Report.headerBytes j.format
  match j.plan? with
  | none => { exhausted with output := header }
  | some plan =>
    let (result, rig, records) := plan.run (Rig.mk j.engine clock) #[]
    { conclude result rig.engine with output := header ++ records.toList.flatMap (Report.recordBytes j.format) }

end Job

def run {m : Type → Type} [Monad m] {κ : Type} [Clock κ] (host : Host m) (clock : κ) (arguments : List String) :
    m Response := do
  match parse arguments with
  | .error stop => return stop.response
  | .ok s =>
    match ← Job.start host s with
    | .error fault => return fault.response
    | .ok job => return job.run clock

end DecodeBench.CommandLine
