import DecodeBench.CommandLine.Settings

/-! The help text. Its long form gives every argument a paragraph; its short form gives it a line, with
the texts in a column. -/

namespace DecodeBench.CommandLine

def programName : String := "combo-bench"

def versionLine : String := programName ++ " 0.1.0"

def about : String := "Command-line driver for the combo prefill/decode sweep"

def usageLine : String :=
  "Usage: " ++ programName ++ " [OPTIONS] " ++ " ".intercalate (Argument.positional.map Argument.display)

namespace Argument

def describe (long : Bool) : Argument → String
  | model => "Local model directory, config.json, HuggingFace model id, or \"tiny\""
  | parallelism => "Parallel sequence counts, comma separated"
  | promptLengths => "Prompt lengths, comma separated"
  | genLengths => "Generation lengths, comma separated"
  | repeatCount => "Repeats per grid point"
  | algorithm => "CPU/GPU work-split strategy: 0 gradient descent, 1 cold start, 2 constant ratio, 3 CPU only, " ++
    "4 iGPU only. The reference engine runs on a single device, so this is only reported"
  | cells => "KV cache size in token slots"
  | gpuLayers => "Layers to offload to the GPU; any value above 0 selects CUDA device 0"
  | threads => "CPU worker threads for the compute backend"
  | shared => "Compute the prompt once and share its cache across sequences"
  | batch => "Maximum tokens per decode call"
  | warmup => "Tokens decoded once before the sweep; 0 disables"
  | seed => "Seed for the reference engine weights"
  | revision => "Model revision on the Hub"
  | verbose => "Log at debug level"
  | help => if long then "Print help (see a summary with '-h')" else "Print help (see more with '--help')"
  | version => "Print version"
  | onFailure | format => ""

def listText (ns : List Nat) : String := ",".intercalate (ns.map toString)

def default? (a : Argument) : Option String :=
  let s : Settings := {}
  match a with
  | parallelism => some (listText s.parallelism)
  | promptLengths => some (listText s.promptLengths)
  | genLengths => some (listText s.genLengths)
  | repeatCount => some (toString s.repeatCount)
  | algorithm => some (toString s.algorithm)
  | cells => some (toString s.cells)
  | gpuLayers => some (toString s.gpuLayers)
  | batch => some (toString s.batch)
  | warmup => some (toString s.warmup)
  | onFailure => (failureChoices.find? (·.value = s.failurePolicy)).map (·.word)
  | format => (formatChoices.find? (·.value = s.format)).map (·.word)
  | seed => some (toString s.seed)
  | revision => some s.revision
  | model | threads | shared | verbose | help | version => none

def heading (a : Argument) : String :=
  match a.longName?, a.shortName? with
  | some _, some c => "-" ++ c.toString ++ ", " ++ a.display
  | some _, none => "    " ++ a.display
  | none, _ => a.display

def explainsWords (a : Argument) : Bool := a.words.any fun (_, text) => !text.isEmpty

def notes (a : Argument) (long : Bool) : List String :=
  (match a.default? with
    | some d => ["[default: " ++ d ++ "]"]
    | none => []) ++
  if a.words.isEmpty || (long && a.explainsWords) then [] else [a.wordsNote]

end Argument

namespace Help

def blanks (n : Nat) : String := String.ofList (List.replicate n ' ')

def paragraphIndent : Nat := 10

def paragraph (lines : List String) : String := ("\n" ++ blanks paragraphIndent).intercalate lines

def explainedWords (words : List (String × String)) : List String :=
  let width := (words.map fun (word, _) => word.length).foldl max 0
  words.map fun (word, help) =>
    "- " ++ word ++ if help.isEmpty then "" else ": " ++ blanks (width - word.length) ++ help

def longParts (a : Argument) : List (List String) :=
  [if (a.describe true).isEmpty then [] else [a.describe true],
   if a.explainsWords then "Possible values:" :: explainedWords a.words else [],
   a.notes true].filter (!·.isEmpty)

def longEntry (a : Argument) : String :=
  "  " ++ a.heading ++ "\n" ++ blanks paragraphIndent ++ paragraph ([""].intercalate (longParts a))

def shortText (a : Argument) : String :=
  " ".intercalate ((if (a.describe false).isEmpty then [] else [a.describe false]) ++ a.notes false)

def headingWidth (arguments : List Argument) : Nat := (arguments.map fun a => a.heading.length).foldl max 0

def shortEntry (width : Nat) (a : Argument) : String :=
  "  " ++ a.heading ++ blanks (width - a.heading.length + 2) ++ shortText a

def entries (long : Bool) (arguments : List Argument) : String :=
  if long then "\n\n".intercalate (arguments.map longEntry)
  else "\n".intercalate (arguments.map (shortEntry (headingWidth arguments)))

def text (long : Bool) : String :=
  "\n\n".intercalate [
    about,
    usageLine,
    "Arguments:\n" ++ entries long Argument.positional,
    "Options:\n" ++ entries long Argument.options] ++ "\n"

end Help

end DecodeBench.CommandLine
