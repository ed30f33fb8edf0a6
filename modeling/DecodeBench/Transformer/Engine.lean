import DecodeBench.Cache.Cells
import DecodeBench.Cache.Rows
import DecodeBench.Engine
import DecodeBench.Transformer.Attention
import DecodeBench.Transformer.Device

/-! An engine that runs a small transformer over a cache of cells. A batch is checked, gets a run of
free cells, and is taken through all layers on the device; if that fails it gives its cells back. -/

namespace DecodeBench.Transformer

open Cache Model

structure Limits where
  cells : Nat := 8192
  batch : Nat := 4096
  sequences : Nat := maxSequences
  seed : Nat := 1234
  deriving DecidableEq, Repr, Inhabited

inductive SetupFault where
  | dimensions (fault : DimensionFault)
  | sequences (given : Nat)
  | noRoom
  | outOfMemory
  deriving DecidableEq, Repr

def SetupFault.message : SetupFault → String
  | .dimensions fault => fault.message
  | .sequences given => s!"n_seq_max must be between 1 and {maxSequences}, got {given}"
  | .noRoom => "n_ctx and n_batch must be non-zero"
  | .outOfMemory => "capacity overflow"

structure Statistics where
  calls : Nat := 0
  failed : Nat := 0
  tokens : Nat := 0
  outputs : Nat := 0
  deriving DecidableEq, Repr, Inhabited

inductive Refusal where
  | invalidBatch
  | noFreeCells
  | computeFailed
  deriving DecidableEq, Repr

def Refusal.status : Refusal → Int
  | .invalidBatch => -1
  | .noFreeCells => 1
  | .computeFailed => -2

structure State where
  limits : Limits
  dimensions : Dimensions
  device : Device
  weights : Weights
  table : CellTable
  rows : RowStore Float
  logits : List Vec := []
  statistics : Statistics := {}

namespace State

def fitsMemory (d : Dimensions) (cells : Nat) (format : NumberFormat) : Bool :=
  Weights.fitMemory d && RowStore.fitsMemory cells d.hidden d.layers format && CellTable.fitsMemory cells

def create (d : Dimensions) (limits : Limits) (device : Device) (format : NumberFormat) : Except SetupFault State :=
  match d.fault? with
  | some fault => .error (.dimensions fault)
  | none =>
    if limits.sequences = 0 ∨ limits.sequences > maxSequences then .error (.sequences limits.sequences)
    else if limits.cells = 0 ∨ limits.batch = 0 then .error .noRoom
    else if !fitsMemory d limits.cells format then .error .outOfMemory
    else .ok {
      limits
      dimensions := d
      device
      weights := .draw d limits.seed
      table := .empty limits.cells
      rows := .empty limits.cells d.hidden d.layers format }

def acceptsRequest (s : State) (r : Request) : Bool :=
  decide (r.token < s.dimensions.vocabulary) && !r.sequences.isEmpty &&
    r.sequences.all fun id => decide (id < s.limits.sequences)

def accepts (s : State) (rs : List Request) : Bool :=
  !rs.isEmpty && decide (rs.length ≤ s.limits.batch) && rs.all s.acceptsRequest

/-! ### The forward pass -/

def attentionMask (s : State) (rs : List Request) (extent : Nat) : List (List Bool) :=
  rs.map fun r => s.table.maskRow extent (.ofList r.sequences) r.position

def work (s : State) (rs : List Request) (start : Nat) : Work :=
  let extent := s.table.extent
  { requests := rs, start, extent, mask := s.attentionMask rs extent }

def attendAll (d : Dimensions) (l : LayerWeights) (hidden : List Vec) (contexts : List (List Vec × List Vec)) : List Vec :=
  (hidden.zip contexts).map fun (x, keys, values) =>
    x.zipWith (· + ·) (l.output.apply (attend d.headSize d.heads (l.query.apply x) keys values))

def attendRows? (d : Dimensions) (l : LayerWeights) (layer : Nat) (work : Work) (hidden : List Vec)
    (rows : RowStore Float) : Option (List Vec) :=
  match rows.read layer work.extent with
  | .error _ => none
  | .ok (keys, values) => some (attendAll d l hidden (work.mask.map fun row => (shown row keys, shown row values)))

/-- The rows of a layer that fails stay as far as they were stored. -/
def runLayer (d : Dimensions) (completes : Stage → Bool) (work : Work) (l : LayerWeights) (layer : Nat)
    (hidden : List Vec) (rows : RowStore Float) : Option (List Vec) × RowStore Float :=
  if completes (.project layer) then
    match rows.write? layer work.start (hidden.map l.key.apply) (hidden.map l.value.apply) with
    | none => (none, rows)
    | some (.error _, rows) => (none, rows)
    | some (.ok (), rows) =>
      (if completes (.attend layer) then attendRows? d l layer work hidden rows else none, rows)
  else (none, rows)

def runLayers (d : Dimensions) (completes : Stage → Bool) (work : Work) :
    List LayerWeights → (layer : Nat) → List Vec → RowStore Float → Option (List Vec) × RowStore Float
  | [], _, hidden, rows => (some hidden, rows)
  | l :: ls, layer, hidden, rows =>
    match runLayer d completes work l layer hidden rows with
    | (none, rows) => (none, rows)
    | (some hidden, rows) => runLayers d completes work ls (layer + 1) hidden rows

def completes (s : State) (work : Work) : Stage → Bool := s.device.completes s.rows.format work

def embed (s : State) (rs : List Request) : List Vec := rs.map fun r => s.weights.embeddings.getD r.token #[]

def predict? (s : State) (work : Work) (hidden : List Vec) : Option (List Vec) :=
  let wanted := (hidden.zip work.requests).filterMap fun (x, r) => if r.wantsLogits then some x else none
  if wanted.isEmpty || s.completes work .predict then some (wanted.map s.weights.head.apply) else none

def forward (s : State) (work : Work) : Option (List Vec) × RowStore Float :=
  if s.completes work .embed then
    match runLayers s.dimensions (s.completes work) work s.weights.layers 0 (s.embed work.requests) s.rows with
    | (none, rows) => (none, rows)
    | (some hidden, rows) => (s.predict? work hidden, rows)
  else (none, s.rows)

/-! ### Decoding -/

def counted (s : State) : State :=
  { s with statistics := { s.statistics with calls := s.statistics.calls + 1 } }

def refuse (s : State) (r : Refusal) : Int × State :=
  (r.status, { s with statistics := { s.statistics with failed := s.statistics.failed + 1 } })

def place (s : State) (rs : List Request) : Except Refusal Nat × State :=
  if s.accepts rs then
    match (s.table.find? rs.length).getD (none, s.table) with
    | (none, table) => (.error .noFreeCells, { s with table })
    | (some start, table) =>
      let claimed := table.occupy? start (rs.map (·.position)) (rs.map fun r => .ofList r.sequences)
      (.ok start, { s with table := claimed.getD table })
  else (.error .invalidBatch, s)

def giveUp (s : State) (work : Work) : Int × State :=
  let freed := s.table.release? work.start work.requests.length
  { s with table := freed.getD s.table }.refuse .computeFailed

/-- The logits of the last batch are gone once those of this one were to be collected. -/
def compute (s : State) (work : Work) : Int × State :=
  match s.forward work with
  | (none, rows) => { s with rows }.giveUp work
  | (some logits, rows) =>
    if s.completes work .collect then
      let statistics := { s.statistics with
        tokens := s.statistics.tokens + work.requests.length
        outputs := s.statistics.outputs + logits.length }
      (0, { s with rows, logits, statistics })
    else { s with rows, logits := [] }.giveUp work

def decodeRequests (s : State) (rs : List Request) : Int × State :=
  match s.counted.place rs with
  | (.error r, s) => s.refuse r
  | (.ok start, s) => s.compute (s.work rs start)

end State

instance : Engine State where
  decode w s := s.decodeRequests w.toList
  clear s := { s with table := s.table.clear }
  share source target span s := { s with table := s.table.share source target span }

end DecodeBench.Transformer
