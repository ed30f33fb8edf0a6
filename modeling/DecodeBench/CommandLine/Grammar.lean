import DecodeBench.CommandLine.Settings

/-! The grammar of command lines. Arguments are taken from left to right. The value of an argument is
held back until the next one is taken up, and only then read; an argument that nobody knows is
reported at once, before a value that is still held back. -/

namespace DecodeBench.CommandLine

inductive Stop where
  | usage (fault : UsageFault)
  | help (long : Bool)
  | version
  deriving DecidableEq, Repr

structure Held where
  argument : Argument
  value : Option String
  deriving DecidableEq, Repr

structure Reader where
  settings : Settings := {}
  given : List Argument := []
  held : Option Held := none
  places : List Argument := Argument.positional
  onlyPlaces : Bool := false

namespace Reader

def stop {α : Type} (fault : UsageFault) : Except Stop α := .error (.usage fault)

/-- Settles an argument that takes a value. An argument without one is reported before one that came before. -/
def settle (r : Reader) (h : Held) : Except Stop Reader :=
  match h.value with
  | none => stop (.missingValue h.argument)
  | some value =>
    if h.argument ∈ r.given then stop (.repeated h.argument)
    else match r.settings.assign h.argument value with
      | .error fault => stop fault
      | .ok settings => .ok { r with settings, given := h.argument :: r.given }

def release (r : Reader) : Except Stop Reader :=
  match r.held with
  | none => .ok r
  | some h => { r with held := none }.settle h

def take (r : Reader) (a : Argument) (value : String) : Except Stop Reader := do (← r.release).settle ⟨a, some value⟩

def hold (r : Reader) (h : Held) : Except Stop Reader := do return { (← r.release) with held := some h }

def switch (r : Reader) (a : Argument) (long : Bool) : Except Stop Reader := do
  let r ← r.release
  match a with
  | .help => .error (.help long)
  | .version => .error .version
  | _ =>
    if a ∈ r.given then stop (.repeated a)
    else return { r with settings := r.settings.turnOn a, given := a :: r.given }

def readLong (r : Reader) (name : String) (value : Option String) : Except Stop Reader :=
  match Argument.ofLongName? name with
  | none => stop (.unexpectedArgument ("--" ++ name))
  | some a =>
    match a.takesValue, value with
    | true, some v => r.take a v
    | true, none => r.hold ⟨a, none⟩
    | false, some v => stop (.unneededValue v a)
    | false, none => r.switch a true

/-- Short options in a row. The first that takes a value takes the rest for it, less an equals sign in front. -/
def readShort (r : Reader) : List Char → Except Stop Reader
  | [] => .ok r
  | c :: cs =>
    match Argument.ofShortName? c with
    | none => stop (.unexpectedArgument (String.ofList ['-', c]))
    | some a =>
      if a.takesValue then
        match cs with
        | [] => r.hold ⟨a, none⟩
        | '=' :: value => r.take a (String.ofList value)
        | value => r.take a (String.ofList value)
      else do (← r.switch a false).readShort cs

def readPlace (r : Reader) (text : String) : Except Stop Reader :=
  match r.places with
  | [] => stop (.unexpectedArgument text)
  | a :: places => do return { (← r.hold ⟨a, some text⟩) with places }

def readPlain (r : Reader) (text : String) : Except Stop Reader :=
  match r.onlyPlaces, r.held with
  | false, some ⟨a, none⟩ => .ok { r with held := some ⟨a, some text⟩ }
  | _, _ => r.readPlace text

def splitEquals (cs : List Char) : String × Option String :=
  let name := cs.takeWhile (· ≠ '=')
  match cs.dropWhile (· ≠ '=') with
  | [] => (String.ofList name, none)
  | _ :: value => (String.ofList name, some (String.ofList value))

def readOne (r : Reader) (text : String) : Except Stop Reader :=
  if r.onlyPlaces then r.readPlain text
  else match text.toList with
    | ['-', '-'] => .ok { r with onlyPlaces := true }
    | '-' :: '-' :: cs => let (name, value) := splitEquals cs; r.readLong name value
    | '-' :: c :: cs => r.readShort (c :: cs)
    | _ => r.readPlain text

def finish (r : Reader) : Except Stop Settings := do
  let r ← r.release
  if .model ∈ r.given then return r.settings else stop .missingModel

end Reader

def parse (arguments : List String) : Except Stop Settings := do
  (← arguments.foldlM Reader.readOne {}).finish

end DecodeBench.CommandLine
