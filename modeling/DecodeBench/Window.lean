import DecodeBench.Request

/-! Requests laid out in columns. The sequence ids of all requests share one table, in which
every request owns `stride` places and fills the first `counts[i]` of them. A slice of a window is
a window again: four columns are cut at the bounds of the slice, the table at `stride` times them. -/

namespace DecodeBench

structure Window where
  stride : Nat
  tokens : Array Nat
  positions : Array Nat
  counts : Array Nat
  ids : Array Nat
  outputs : Array Bool
  deriving DecidableEq, Repr, Inhabited

namespace Window

def empty (stride : Nat) : Window := ⟨stride, #[], #[], #[], #[], #[]⟩

def size (w : Window) : Nat := w.tokens.size

def isEmpty (w : Window) : Bool := w.size == 0

structure WellFormed (w : Window) : Prop where
  positions_size : w.positions.size = w.size
  counts_size : w.counts.size = w.size
  outputs_size : w.outputs.size = w.size
  ids_size : w.ids.size = w.size * w.stride
  counts_le : ∀ n ∈ w.counts, n ≤ w.stride

/-- The caller sees to it that the request has at most `stride` ids; the rest of its places is filled with zeros. -/
def push (w : Window) (r : Request) : Window where
  stride := w.stride
  tokens := w.tokens.push r.token
  positions := w.positions.push r.position
  counts := w.counts.push r.sequences.length
  ids := w.ids ++ (r.sequences.rightpad w.stride 0).toArray
  outputs := w.outputs.push r.wantsLogits

def setOutput (w : Window) (i : Nat) (wanted : Bool) : Window :=
  { w with outputs := w.outputs.setIfInBounds i wanted }

def sequences? (w : Window) (i : Nat) : Option (List Nat) :=
  w.counts[i]?.map fun n => (w.ids.extract (i * w.stride) (i * w.stride + n)).toList

def request? (w : Window) (i : Nat) : Option Request := do
  let token ← w.tokens[i]?
  let position ← w.positions[i]?
  let sequences ← w.sequences? i
  let wantsLogits ← w.outputs[i]?
  return { token, position, sequences, wantsLogits }

def toList (w : Window) : List Request := (List.range w.size).filterMap w.request?

def outputCount (w : Window) : Nat := w.outputs.count true

def extract (w : Window) (start stop : Nat) : Window where
  stride := w.stride
  tokens := w.tokens.extract start stop
  positions := w.positions.extract start stop
  counts := w.counts.extract start stop
  ids := w.ids.extract (start * w.stride) (stop * w.stride)
  outputs := w.outputs.extract start stop

def slice? (w : Window) (start stop : Nat) : Option Window :=
  if start ≤ stop ∧ stop ≤ w.size then some (w.extract start stop) else none

def chunks (w : Window) (limit : Nat) : List Window :=
  (List.range ((w.size + limit - 1) / limit)).map fun k => w.extract (k * limit) (min ((k + 1) * limit) w.size)

theorem wellFormed_empty (stride : Nat) : (empty stride).WellFormed := by
  constructor <;> simp [empty, size]

theorem WellFormed.push {w : Window} (hw : w.WellFormed) {r : Request} (hr : r.sequences.length ≤ w.stride) :
    (w.push r).WellFormed where
  positions_size := by simpa [Window.push, size] using hw.positions_size
  counts_size := by simpa [Window.push, size] using hw.counts_size
  outputs_size := by simpa [Window.push, size] using hw.outputs_size
  ids_size := by
    have := hw.ids_size
    simp only [Window.push, size, Array.size_append, Array.size_push, List.size_toArray, List.length_rightpad,
      Nat.add_mul] at *
    omega
  counts_le n hn := by
    rcases Array.mem_push.1 hn with h | rfl
    · exact hw.counts_le n h
    · exact hr

end Window

end DecodeBench
