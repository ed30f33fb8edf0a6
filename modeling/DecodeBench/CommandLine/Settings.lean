import DecodeBench.CommandLine.Number
import DecodeBench.Report
import DecodeBench.Sweep.Config
import DecodeBench.Text.Controls

/-! The arguments of the program, what they set, and how they can be wrong. -/

namespace DecodeBench.CommandLine

inductive Argument where
  | model
  | parallelism
  | promptLengths
  | genLengths
  | repeatCount
  | algorithm
  | cells
  | gpuLayers
  | threads
  | shared
  | batch
  | warmup
  | onFailure
  | format
  | seed
  | revision
  | verbose
  | help
  | version
  deriving DecidableEq, Repr, Inhabited

namespace Argument

def positional : List Argument :=
  [model, parallelism, promptLengths, genLengths, repeatCount, algorithm, cells, gpuLayers]

def longName? : Argument → Option String
  | threads => some "threads"
  | shared => some "shared-prefill"
  | batch => some "n-batch"
  | warmup => some "warmup"
  | onFailure => some "on-failure"
  | format => some "format"
  | seed => some "seed"
  | revision => some "revision"
  | verbose => some "verbose"
  | help => some "help"
  | version => some "version"
  | _ => none

def shortName? : Argument → Option Char
  | threads => some 't'
  | verbose => some 'v'
  | help => some 'h'
  | version => some 'V'
  | _ => none

def valueName? : Argument → Option String
  | model => some "MODEL"
  | parallelism => some "PL"
  | promptLengths => some "PP"
  | genLengths => some "TG"
  | repeatCount => some "REPEAT"
  | algorithm => some "ALGORITHM"
  | cells => some "KV_MAX"
  | gpuLayers => some "NGL"
  | threads => some "THREADS"
  | batch => some "N_BATCH"
  | warmup => some "WARMUP"
  | onFailure => some "ON_FAILURE"
  | format => some "FORMAT"
  | seed => some "SEED"
  | revision => some "REVISION"
  | shared | verbose | help | version => none

def takesValue (a : Argument) : Bool := a.valueName?.isSome

def options : List Argument :=
  [threads, shared, batch, warmup, onFailure, format, seed, revision, verbose, help, version]

def ofLongName? (name : String) : Option Argument := options.find? fun a => a.longName? == some name

def ofShortName? (c : Char) : Option Argument := options.find? fun a => a.shortName? == some c

def display (a : Argument) : String :=
  match a.longName?, a.valueName? with
  | some long, some value => "--" ++ long ++ " <" ++ value ++ ">"
  | some long, none => "--" ++ long
  | none, some value => if a = model then "<" ++ value ++ ">" else "[" ++ value ++ "]"
  | none, none => ""

end Argument

structure Settings where
  model : String := ""
  parallelism : List Nat := [1, 2, 4, 8, 16, 32]
  promptLengths : List Nat := [128, 256, 512, 1024, 2048, 3584, 7680]
  genLengths : List Nat := [128, 256]
  repeatCount : Nat := 3
  algorithm : Nat := 0
  cells : Nat := 8192
  gpuLayers : Nat := 0
  threads : Option Nat := none
  shared : Bool := false
  batch : Nat := 4096
  warmup : Nat := 32
  failurePolicy : Sweep.FailurePolicy := .abortSweep
  format : OutputFormat := .table
  seed : Nat := 1234
  revision : String := "main"
  verbose : Bool := false
  deriving Inhabited

structure Choice (α : Type) where
  word : String
  value : α
  help : String := ""

def failureChoices : List (Choice Sweep.FailurePolicy) :=
  [⟨"abort", .abortSweep, "Stop the sweep at the first failed decode"⟩,
   ⟨"skip", .skipGridPoint, "Record the grid point as skipped and continue"⟩]

def formatChoices : List (Choice OutputFormat) := [⟨"table", .table, ""⟩, ⟨"json", .json, ""⟩]

def Argument.words : Argument → List (String × String)
  | onFailure => failureChoices.map fun c => (c.word, c.help)
  | format => formatChoices.map fun c => (c.word, c.help)
  | _ => []

def Argument.wordsNote (a : Argument) : String := "[possible values: " ++ ", ".intercalate (a.words.map Prod.fst) ++ "]"

inductive UsageFault where
  | unexpectedArgument (text : String)
  | invalidValue (value : String) (argument : Argument) (reason : String)
  | unknownChoice (value : String) (argument : Argument)
  | missingValue (argument : Argument)
  | repeated (argument : Argument)
  | unneededValue (value : String) (argument : Argument)
  | missingModel
  deriving DecidableEq, Repr

namespace UsageFault

def noValue (a : Argument) : String :=
  "a value is required for '" ++ a.display ++ "' but none was supplied" ++
    if a.words.isEmpty then "" else "\n  " ++ a.wordsNote

def cited (text : String) : String := "'" ++ Text.withoutControls text ++ "'"

def message : UsageFault → String
  | .unexpectedArgument text => "unexpected argument " ++ cited text ++ " found"
  | .invalidValue value a reason => "invalid value " ++ cited value ++ " for '" ++ a.display ++ "': " ++ reason
  | .unknownChoice value a =>
    if value.isEmpty then noValue a
    else "invalid value " ++ cited value ++ " for '" ++ a.display ++ "'\n  " ++ a.wordsNote
  | .missingValue a => noValue a
  | .repeated a => "the argument '" ++ a.display ++ "' cannot be used multiple times"
  | .unneededValue value a =>
    "unexpected value " ++ cited value ++ " for '" ++ a.display ++ "' found; no more were expected"
  | .missingModel => "the following required arguments were not provided:\n  " ++ Argument.model.display

end UsageFault

namespace Settings

def topAlgorithm : Nat := 4

def readNatural (a : Argument) (limit : Nat) (value : String) : Except UsageFault Nat :=
  match parseNatural limit value.toList with
  | .ok n => .ok n
  | .error fault => .error (.invalidValue value a fault.message)

def readList (a : Argument) (value : String) : Except UsageFault (List Nat) :=
  match parseList value with
  | .ok ns => .ok ns
  | .error fault => .error (.invalidValue value a fault.message)

def readAlgorithm (value : String) : Except UsageFault Nat :=
  match parseInteger value.toList with
  | .error fault => .error (.invalidValue value .algorithm fault.message)
  | .ok i =>
    if 0 ≤ i ∧ i ≤ topAlgorithm then .ok i.toNat
    else .error (.invalidValue value .algorithm s!"{i} is not in 0..={topAlgorithm}")

def readChoice {α : Type} (a : Argument) (choices : List (Choice α)) (value : String) : Except UsageFault α :=
  match choices.find? (·.word == value) with
  | some c => .ok c.value
  | none => .error (.unknownChoice value a)

def assign (s : Settings) (a : Argument) (value : String) : Except UsageFault Settings := do
  match a with
  | .model => return { s with model := value }
  | .parallelism => return { s with parallelism := ← readList a value }
  | .promptLengths => return { s with promptLengths := ← readList a value }
  | .genLengths => return { s with genLengths := ← readList a value }
  | .repeatCount => return { s with repeatCount := ← readNatural a wordLimit value }
  | .algorithm => return { s with algorithm := ← readAlgorithm value }
  | .cells => return { s with cells := ← readNatural a wordLimit value }
  | .gpuLayers => return { s with gpuLayers := ← readNatural a wordLimit value }
  | .threads => return { s with threads := some (← readNatural a wordLimit value) }
  | .batch => return { s with batch := ← readNatural a wordLimit value }
  | .warmup => return { s with warmup := ← readNatural a wordLimit value }
  | .onFailure => return { s with failurePolicy := ← readChoice a failureChoices value }
  | .format => return { s with format := ← readChoice a formatChoices value }
  | .seed => return { s with seed := ← readNatural a wordLimit value }
  | .revision => return { s with revision := value }
  | .shared | .verbose | .help | .version => return s

def turnOn (s : Settings) : Argument → Settings
  | .shared => { s with shared := true }
  | .verbose => { s with verbose := true }
  | _ => s

end Settings

end DecodeBench.CommandLine
