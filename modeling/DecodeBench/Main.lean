import DecodeBench.CommandLine.Run
import DecodeBench.Model.HubCache
import DecodeBench.Transformer.Processor

/-! The program: the plan of a sweep is carried out with the clock of the machine, and every record goes
to the standard output as soon as there is one. -/

namespace DecodeBench

def Plan.perform {α ε : Type} [Engine ε] (sink : Record → IO Unit) : Plan α → ε → IO (α × ε)
  | .done a, engine => return (a, engine)
  | .emit r next, engine => do
    sink r
    next.perform sink engine
  | .ask (.decode w) next, engine => let (status, engine) := Engine.decode w engine; (next status).perform sink engine
  | .ask .clear next, engine => (next ()).perform sink (Engine.clear engine)
  | .ask (.share source target span) next, engine => (next ()).perform sink (Engine.share source target span engine)
  | .ask .now next, engine => do (next (← IO.monoNanosNow)).perform sink engine

namespace Machine

def kind? (path : String) : IO (Option IO.FS.FileType) := do
  try
    return some (← (← IO.FS.realPath path).metadata).type
  catch _ => return none

def files : FileAccess IO where
  isDirectory path := do
    match ← kind? path with
    | some .dir => return true
    | _ => return false
  isFile path := do
    match ← kind? path with
    | some .file => return true
    | _ => return false
  read path := do
    try
      return some (← IO.FS.readBinFile path).toList
    catch _ => return none

def cache : IO String := do
  match ← IO.getEnv "HF_HOME" with
  | some home => return joinPath home "hub"
  | none => return joinPath ((← IO.getEnv "HOME").getD "") ".cache/huggingface/hub"

/-- Models are not downloaded, and there is no device but the processor. -/
def host : IO (CommandLine.Host IO) := do
  return { files, hub := Model.HubCache.hub files (← cache), processor := Transformer.processor, graphics := .ok none }

def write (bytes : List UInt8) : IO Unit := do
  let out ← IO.getStdout
  out.write ⟨bytes.toArray⟩
  out.flush

def say (r : CommandLine.Response) : IO UInt32 := do
  write r.output
  for line in r.log do IO.eprintln line
  if let some message := r.error then IO.eprintln ("error: " ++ message)
  return r.exitCode.toUInt32

end Machine

open CommandLine in
def runHere (arguments : List String) : IO UInt32 := do
  match parse arguments with
  | .error stop => Machine.say stop.response
  | .ok settings =>
    match ← Job.start (← Machine.host) settings with
    | .error fault => Machine.say fault.response
    | .ok job =>
      Machine.write (Report.headerBytes job.format)
      match job.plan? with
      | none => Machine.say exhausted
      | some plan =>
        let (result, engine) ← plan.perform (fun r => Machine.write (Report.recordBytes job.format r)) job.engine
        Machine.say (Job.conclude result engine)

end DecodeBench

def main (arguments : List String) : IO UInt32 := do
  try
    DecodeBench.runHere arguments
  catch e =>
    IO.eprintln ("error: " ++ toString e)
    return 1
