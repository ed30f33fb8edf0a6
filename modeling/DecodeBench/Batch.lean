import DecodeBench.Failure
import DecodeBench.Memory
import DecodeBench.Window

/-! A batch: a window that grows up to a fixed capacity. -/

namespace DecodeBench

structure Batch where
  capacity : Nat
  window : Window
  deriving DecidableEq, Repr, Inhabited

namespace Batch

/-- A request always has room for one id. -/
def empty (capacity idsPerRequest : Nat) : Batch := ⟨capacity, .empty (max idsPerRequest 1)⟩

def fitsMemory (capacity idsPerRequest : Nat) : Bool := Memory.holds (capacity * max idsPerRequest 1) 8

def size (b : Batch) : Nat := b.window.size

def isEmpty (b : Batch) : Bool := b.window.isEmpty

def request? (b : Batch) (i : Nat) : Option Request := b.window.request? i

def clear (b : Batch) : Batch := { b with window := .empty b.window.stride }

/-- Why a request cannot be added. A full batch is reported before a request with too many ids. -/
def refusal? (b : Batch) (r : Request) : Option Failure :=
  if b.size ≥ b.capacity then some (.batchFull b.capacity)
  else if r.sequences.length > b.window.stride then some (.tooManyIds r.sequences.length b.window.stride)
  else none

def add (b : Batch) (r : Request) : Batch := { b with window := b.window.push r }

def push (b : Batch) (r : Request) : Except Failure Batch :=
  match b.refusal? r with
  | some e => .error e
  | none => .ok (b.add r)

def setOutput? (b : Batch) (i : Nat) (wanted : Bool) : Option Batch :=
  if i < b.size then some { b with window := b.window.setOutput i wanted } else none

def wantLast (b : Batch) : Batch := { b with window := b.window.setOutput (b.size - 1) true }

def fillFrom (request : Nat → Request) : (count k : Nat) → Batch → Except Failure Unit × Batch
  | 0, _, b => (.ok (), b)
  | count + 1, k, b =>
    match b.refusal? (request k) with
    | some e => (.error e, b)
    | none => fillFrom request count (k + 1) (b.add (request k))

def fill (request : Nat → Request) (count : Nat) (b : Batch) : Except Failure Unit × Batch := b.fillFrom request count 0

def ofList (capacity idsPerRequest : Nat) (rs : List Request) : Except Failure Batch :=
  rs.foldlM push (empty capacity idsPerRequest)

end Batch

end DecodeBench
