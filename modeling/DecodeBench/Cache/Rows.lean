import DecodeBench.Cache.NumberFormat
import DecodeBench.Memory
import DecodeBench.Overwrite

/-! Rows of keys and values, one of each per layer and cell. -/

namespace DecodeBench.Cache

abbrev Row (α : Type) := Array α

structure LayerRows (α : Type) where
  keys : Array (Row α)
  values : Array (Row α)
  deriving DecidableEq, Repr, Inhabited

structure RowStore (α : Type) where
  cells : Nat
  width : Nat
  format : NumberFormat
  layers : Array (LayerRows α)
  deriving DecidableEq, Repr, Inhabited

inductive RowFault where
  | noLayer (layer : Nat)
  | pastEnd (start rows cells : Nat)
  | badShape
  deriving DecidableEq, Repr

def RowFault.message? : RowFault → Option String
  | .noLayer layer => some s!"Layer index {layer} out of bounds"
  | .pastEnd start rows cells => some s!"Write would exceed cache: start {start} + tokens {rows} > cells {cells}"
  | .badShape => none

namespace RowStore

variable {α : Type} [Storable α]

def empty (cells width layers : Nat) (format : NumberFormat) : RowStore α where
  cells
  width
  format
  layers :=
    -- Without cells no row is built, however wide it would be.
    let rows := if cells = 0 then #[] else Array.replicate cells (Array.replicate width Storable.zero)
    Array.replicate layers ⟨rows, rows⟩

def fitsMemory (cells width layers : Nat) (format : NumberFormat) : Bool :=
  Memory.holds layers 8 && (layers == 0 || Memory.holds (cells * width) format.byteSize)

def megabytes (s : RowStore α) : Float :=
  (s.cells * s.width * s.format.byteSize * 2 * s.layers.size).toUInt64.toFloat / 1024 / 1024

def accepts (s : RowStore α) (start : Nat) (rows : List (Row α)) : Bool :=
  rows.all (fun r => r.size == s.width) && decide (start + rows.length ≤ s.cells)

def converted (s : RowStore α) (rows : List (Row α)) : List (Row α) :=
  rows.map fun r => r.map (Storable.convert s.format)

def setKeys (s : RowStore α) (layer start : Nat) (rows : List (Row α)) : RowStore α :=
  { s with layers := s.layers.modify layer fun l => { l with keys := overwritten l.keys start (s.converted rows) } }

def setValues (s : RowStore α) (layer start : Nat) (rows : List (Row α)) : RowStore α :=
  { s with layers := s.layers.modify layer fun l => { l with values := overwritten l.values start (s.converted rows) } }

/-- Stores keys and then values. The layer is checked first, then the number of keys against the
cells; keys that fit stay even if the values do not. There is no answer where the end of the rows would be past
the last word. -/
def write? (s : RowStore α) (layer start : Nat) (keys values : List (Row α)) :
    Option (Except RowFault Unit × RowStore α) :=
  if layer ≥ s.layers.size then some (.error (.noLayer layer), s)
  else if start + keys.length > Memory.lastWord then none
  else if start + keys.length > s.cells then some (.error (.pastEnd start keys.length s.cells), s)
  else if !s.accepts start keys then some (.error .badShape, s)
  else
    let s := s.setKeys layer start keys
    if !s.accepts start values then some (.error .badShape, s) else some (.ok (), s.setValues layer start values)

def read (s : RowStore α) (layer count : Nat) : Except RowFault (List (Row α) × List (Row α)) :=
  match s.layers[layer]? with
  | none => .error (.noLayer layer)
  | some l =>
    if count ≤ s.cells then .ok ((l.keys.extract 0 count).toList, (l.values.extract 0 count).toList)
    else .error .badShape

end RowStore

end DecodeBench.Cache
