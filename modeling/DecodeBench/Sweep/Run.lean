import DecodeBench.Sweep.Config

/-! The sweep itself: a warm-up, then every grid point in order. Each record is handed out as soon as
it exists, and all of them are the answer of a sweep that ends well. -/

namespace DecodeBench.Sweep

def warmupRequest (k : Nat) : Request := { token := 0, position := k, sequences := [0], wantsLogits := false }

def warmUp (tokens chunkSize : Nat) : Step Unit := do
  Step.clearBatch
  Step.fill warmupRequest tokens
  Step.submitBatch chunkSize
  Step.clearBatch

def emit (r : Record) : Step Record := do
  Step.report r
  return r

/-- Up to `count` trials of one point, the first with this index. A failed decode ends them with a
skip if the policy says so; any other failure ends the sweep. -/
def repeatTrials (c : Config) (p : GridPoint) (slots : Nat) : (count index : Nat) → Step (List Record)
  | 0, _ => return []
  | count + 1, index => do
    let outcome ← Trial.attempt c.trialOptions p index
    match outcome, c.failurePolicy with
    | .ok m, _ =>
      let r ← emit (.trial m)
      return r :: (← repeatTrials c p slots count (index + 1))
    | .error (.decodeFailed chunk status), .skipGridPoint =>
      let r ← emit (.skipped ⟨p, slots, .decodeFailed chunk status⟩)
      return [r]
    | .error e, _ => throw e

def measurePoint (c : Config) (p : GridPoint) : Step (List Record) := do
  match p.admission c.shared c.cacheBudget with
  | .rejected slots =>
    let r ← emit (.skipped ⟨p, slots, .budgetExceeded⟩)
    return [r]
  | .admitted slots => repeatTrials c p slots c.repeatCount 0

def measurePoints (c : Config) : List GridPoint → Step (List Record)
  | [] => return []
  | p :: ps => do
    let rs ← measurePoint c p
    return rs ++ (← measurePoints c ps)

def body (c : Config) : Step (List Record) := do
  if c.warmupTokens > 0 then
    warmUp (min c.warmupTokens c.cacheBudget) c.chunkSize
  measurePoints c c.points

/-- What comes of a sweep that is refused, or whose batch is laid out. -/
def run (c : Config) : Plan (Except Failure (List Record)) :=
  match c.validate with
  | .error e => .done (.error e)
  | .ok () => do return (← (body c).run.run (.empty c.batchCapacity 1)).1

/-- A valid sweep lays out its batch before it does anything else, and breaks off if there is no memory for it. -/
def plan? (c : Config) : Option (Plan (Except Failure (List Record))) :=
  if c.fitsMemory then some (run c) else none

end DecodeBench.Sweep
