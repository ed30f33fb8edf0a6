import DecodeBench.Files
import DecodeBench.Json.Records

/-! Finding the dimensions of a model: under a preset name, in a directory or file, or on the hub that
models are fetched from. The hub is not part of the program; it answers with the path of a file that it
has fetched, or says why there is none. -/

namespace DecodeBench.Model

inductive LoadFault where
  | noHub (reason : String)
  | notFetched (model reason : String)
  | unreadable (path : String)
  | invalidJson (e : Json.ReadError)
  | invalidDimensions (fault : DimensionFault)

namespace LoadFault

def jsonContext : String := "invalid model config"

def message : LoadFault → String
  | .noHub reason => reason
  | .notFetched model reason => s!"Failed to fetch config for {model}: {reason}"
  | .unreadable path => s!"reading {path}"
  | .invalidJson e => match e.message? with
    | some m => jsonContext ++ ": " ++ m
    | none => jsonContext
  | .invalidDimensions fault => fault.message

end LoadFault

structure Hub (m : Type → Type) where
  connect : m (Except String Unit)
  fetch : (model revision file : String) → m (Except String String)

def Dimensions.ofJson (bytes : List UInt8) : Except LoadFault Dimensions :=
  match Json.parseRecord Dimensions bytes with
  | .error e => .error (.invalidJson e)
  | .ok d =>
    match d.fault? with
    | some fault => .error (.invalidDimensions fault)
    | none => .ok d

namespace Source

def presetName : String := "tiny"

def defaultRevision : String := "main"

def configName : String := "config.json"

def fileName (path : String) : String := ((path.splitOn "/").getLast?).getD ""

def isJsonName (name : String) : Bool := name.endsWith ".json" && decide (name.length > 5)

variable {m : Type → Type} [Monad m]

def localFile? (files : FileAccess m) (path : String) : m (Option String) := do
  if ← files.isDirectory path then
    let candidate := joinPath path configName
    return if ← files.isFile candidate then some candidate else none
  else if ← files.isFile path then
    return if isJsonName (fileName path) then some path else none
  else return none

def locate (files : FileAccess m) (hub : Hub m) (model revision : String) : m (Except LoadFault String) := do
  match ← localFile? files model with
  | some path => return .ok path
  | none =>
    match ← hub.connect with
    | .error reason => return .error (.noHub reason)
    | .ok () => return (← hub.fetch model revision configName).mapError (.notFetched model)

def load (files : FileAccess m) (hub : Hub m) (model revision : String) : m (Except LoadFault Dimensions) := do
  if model = presetName then return .ok .tiny
  match ← locate files hub model revision with
  | .error fault => return .error fault
  | .ok path =>
    match ← files.read path with
    | none => return .error (.unreadable path)
    | some bytes => return Dimensions.ofJson bytes

end Source

end DecodeBench.Model
