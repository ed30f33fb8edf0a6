import DecodeBench.Memory
import DecodeBench.Overwrite
import DecodeBench.Request
import DecodeBench.SequenceSet

/-! The cells of a key-value cache. A cell that belongs to some sequence holds the token of one
position; runs of free cells are found by a search that goes on where the last one ended. Indices and
counts are words: where an operation would go past the cells, past the last word or below zero, it has
no answer. -/

namespace DecodeBench.Cache

structure Cell where
  position : Nat
  sequences : SequenceSet
  deriving DecidableEq, Inhabited

namespace Cell

def empty : Cell := ⟨0, .empty⟩

def isEmpty (c : Cell) : Bool := c.sequences.isEmpty

def visibleTo (c : Cell) (sequences : SequenceSet) (position : Nat) : Bool :=
  c.sequences.intersects sequences && decide (c.position ≤ position)

end Cell

structure CellTable where
  cells : Array Cell
  head : Nat
  used : Nat
  deriving DecidableEq, Inhabited

namespace CellTable

def empty (size : Nat) : CellTable := ⟨Array.replicate size .empty, 0, 0⟩

def fitsMemory (size : Nat) : Bool := Memory.holds size 16

def size (t : CellTable) : Nat := t.cells.size

def free? (t : CellTable) : Option Nat := if t.used ≤ t.size then some (t.size - t.used) else none

def clear (t : CellTable) : CellTable := empty t.size

def slice? (t : CellTable) (start stop : Nat) : Option (List Cell) :=
  if start ≤ stop ∧ stop ≤ t.size then some (t.cells.extract start stop).toList else none

inductive Round where
  | over (found : Option Nat) (head : Nat)
  | again (head tested : Nat)

/-- One round of the search for `count` free cells in a row, with so many cells tested already. The run
does not fit behind the head, so the head goes back to the start; or the run is there; or the head moves
behind the cell that is in the way. All cells tested without success, the search gives up. -/
def round? (t : CellTable) (count head tested : Nat) : Option Round :=
  if head + count > t.size then
    if head > t.size then none
    else if tested + (t.size - head) ≥ t.size then some (.over none 0)
    else some (.again 0 (tested + (t.size - head)))
  else (t.slice? head (head + count)).map fun cells =>
    match cells.findIdx? (!·.isEmpty) with
    | none => .over (some head) head
    | some i =>
      if tested + i + 1 ≥ t.size then .over none (head + i + 1) else .again (head + i + 1) (tested + i + 1)

/-- In each round another cell is tested, or the head does no more than go back to the start. -/
def roundsLeft (t : CellTable) (count head tested : Nat) : Nat :=
  2 * (t.size - tested) + if head + count > t.size then 1 else 0

theorem roundsLeft_lt {t : CellTable} {count head tested head' tested' : Nat} (fits : count ≤ t.size)
    (h : t.round? count head tested = some (.again head' tested')) :
    t.roundsLeft count head' tested' < t.roundsLeft count head tested := by
  simp only [round?] at h
  by_cases hlate : head + count > t.size
  · have hstart : ¬ 0 + count > t.size := by omega
    rw [if_pos hlate] at h
    split at h
    · cases h
    · split at h
      · cases h
      · cases h
        rw [roundsLeft, roundsLeft, if_pos hlate, if_neg hstart]
        omega
  · rw [if_neg hlate] at h
    obtain ⟨cells, -, hcells⟩ := Option.map_eq_some_iff.1 h
    split at hcells
    · cases hcells
    · split at hcells
      · cases hcells
      · cases hcells
        rw [roundsLeft, roundsLeft, if_neg hlate]
        split <;> omega

def search? (t : CellTable) (count : Nat) (fits : count ≤ t.size) (head tested : Nat) : Option (Option Nat × Nat) :=
  match _h : t.round? count head tested with
  | none => none
  | some (.over found head) => some (found, head)
  | some (.again head tested) => t.search? count fits head tested
termination_by t.roundsLeft count head tested
decreasing_by exact roundsLeft_lt fits ‹_›

def find? (t : CellTable) (count : Nat) : Option (Option Nat × CellTable) :=
  if h : 0 < count ∧ count ≤ t.size then
    (t.search? count h.2 t.head 0).map fun (found, head) => (found, { t with head })
  else some (none, t)

/-- Whether there can be such an index or count; there is one for each cell. -/
def counts (t : CellTable) (n : Nat) : Bool := decide (n ≤ max t.size Memory.lastWord)

/-- Claims cells from `start` on for tokens at these positions, each for the sequences at the same
place of the other list. The count of used cells and the head go by the positions. -/
def occupy? (t : CellTable) (start : Nat) (positions : List Nat) (sequences : List SequenceSet) : Option CellTable :=
  let entries := (positions.zip sequences).map fun (p, s) => Cell.mk p s
  let head := start + positions.length
  let used := t.used + positions.length
  if (entries.isEmpty ∨ start + entries.length ≤ t.size) ∧ t.counts head ∧ t.counts used then
    some { cells := overwritten t.cells start entries, head, used }
  else none

def release? (t : CellTable) (start count : Nat) : Option CellTable :=
  if start + count ≤ t.size ∧ count ≤ t.used then
    some { cells := overwritten t.cells start (List.replicate count .empty), head := start, used := t.used - count }
  else none

def share (t : CellTable) (source target : Nat) (span : Span) : CellTable :=
  if source = target ∨ target ≥ maxSequences then t
  else { t with cells := t.cells.map fun c =>
    if source ∈ c.sequences ∧ c.position ∈ span then { c with sequences := c.sequences.insert target } else c }

def extent (t : CellTable) : Nat := t.size - (t.cells.toList.reverse.takeWhile Cell.isEmpty).length

def visible? (t : CellTable) (index : Nat) (sequences : SequenceSet) (position : Nat) : Option Bool :=
  t.cells[index]?.map fun c => c.visibleTo sequences position

def visibleCells (t : CellTable) (sequences : SequenceSet) (position : Nat) : List Nat :=
  (List.range t.size).filter fun i => (t.visible? i sequences position).getD false

def maskRow (t : CellTable) (extent : Nat) (sequences : SequenceSet) (position : Nat) : List Bool :=
  (List.range extent).map fun i => (t.visible? i sequences position).getD false

end CellTable

end DecodeBench.Cache
