import DecodeBench.Engine

/-! Engines and clocks that do as they are told, for rehearsals without a model. -/

namespace DecodeBench

structure Script where
  /-- Statuses fixed for decode calls by their index; the first entry for an index counts, before all other rules. -/
  failAt : List (Nat × Int) := []
  status : Int := 1
  failSequence : Option Nat := none
  failPosition : Option Nat := none
  maxTokens : Option Nat := none
  deriving Inhabited

namespace Script

def refuses (s : Script) (rs : List Request) : Bool :=
  s.failSequence.any (fun id => rs.any fun r => r.sequences.contains id) ||
  s.failPosition.any (fun p => rs.any fun r => r.position == p) ||
  s.maxTokens.any (fun n => rs.length > n)

def statusOf (s : Script) (call : Nat) (rs : List Request) : Int :=
  match s.failAt.lookup call with
  | some status => status
  | none => if s.refuses rs then s.status else 0

end Script

inductive LogEntry where
  | clear
  | share (source target : Nat) (span : Span)
  | decode (requests : List Request) (status : Int)
  deriving Repr

structure ScriptedEngine where
  script : Script
  calls : Nat := 0
  log : Array LogEntry := #[]
  deriving Inhabited

instance : Engine ScriptedEngine where
  decode w e :=
    let requests := w.toList
    let status := e.script.statusOf e.calls requests
    (status, { e with calls := e.calls + 1, log := e.log.push (.decode requests status) })
  clear e := { e with log := e.log.push .clear }
  share source target span e := { e with log := e.log.push (.share source target span) }

structure SteppingClock where
  readings : List Nat := []
  step : Nat := 0
  last : Nat := 0
  reads : Nat := 0
  deriving Inhabited

instance : Clock SteppingClock where
  now c :=
    match c.readings with
    | t :: readings => (t, { c with readings, last := t, reads := c.reads + 1 })
    | [] => (c.last + c.step, { c with last := c.last + c.step, reads := c.reads + 1 })

end DecodeBench
