import DecodeBench.Cache.Rows
import DecodeBench.Proofs.Cache.Search
import DecodeBench.Proofs.Lists

/-! What is read from a cache is what was written last, for each layer, side and cell on its own. -/

namespace DecodeBench.Cache

inductive Side where
  | keys
  | values
  deriving DecidableEq, Repr

namespace LayerRows

variable {α : Type}

def side (l : LayerRows α) : Side → Array (Row α)
  | .keys => l.keys
  | .values => l.values

def setSide (l : LayerRows α) (rows : Array (Row α)) : Side → LayerRows α
  | .keys => { l with keys := rows }
  | .values => { l with values := rows }

lemma side_setSide (l : LayerRows α) (rows : Array (Row α)) (side side' : Side) :
    (l.setSide rows side).side side' = if side' = side then rows else l.side side' := by
  cases side <;> cases side' <;> rfl

end LayerRows

structure RowWrite (α : Type) where
  layer : Nat
  start : Nat
  keys : List (Row α)
  values : List (Row α)

structure Extents where
  cells : Nat
  width : Nat
  layers : Nat

namespace RowWrite

variable {α : Type}

def applyTo [Storable α] (w : RowWrite α) (s : RowStore α) : Option (Except RowFault Unit × RowStore α) :=
  s.write? w.layer w.start w.keys w.values

def side (w : RowWrite α) : Side → List (Row α)
  | .keys => w.keys
  | .values => w.values

def Fits (w : RowWrite α) (x : Extents) (side : Side) : Prop :=
  w.start + (w.side side).length ≤ x.cells ∧ ∀ r ∈ w.side side, r.size = x.width

instance (w : RowWrite α) (x : Extents) (side : Side) : Decidable (w.Fits x side) :=
  inferInstanceAs (Decidable (_ ∧ _))

/-- The end of the rows is past the last word, and there is a layer, so that it is asked for. -/
def Overruns (w : RowWrite α) (x : Extents) : Prop := w.layer < x.layers ∧ Memory.lastWord < w.start + w.keys.length

instance (w : RowWrite α) (x : Extents) : Decidable (w.Overruns x) :=
  inferInstanceAs (Decidable (_ ∧ _))

def Stores (w : RowWrite α) (x : Extents) : Side → Prop
  | .keys => w.layer < x.layers ∧ w.Fits x .keys
  | .values => w.layer < x.layers ∧ w.Fits x .keys ∧ w.Fits x .values

instance (w : RowWrite α) (x : Extents) : (side : Side) → Decidable (w.Stores x side)
  | .keys => inferInstanceAs (Decidable (_ ∧ _))
  | .values => inferInstanceAs (Decidable (_ ∧ _))

def row? (w : RowWrite α) (x : Extents) (side : Side) (layer cell : Nat) : Option (Row α) :=
  if w.Stores x side ∧ layer = w.layer ∧ w.start ≤ cell then (w.side side)[cell - w.start]? else none

end RowWrite

structure KeyValueCache (α : Type) where
  table : CellTable
  rows : RowStore α

inductive Access (α : Type) where
  | write (w : RowWrite α)
  | find (count : Nat)
  | occupy (start : Nat) (positions : List Nat) (sequences : List SequenceSet)
  | release (start count : Nat)
  | share (source target : Nat) (span : Span)
  | clear

namespace Access

variable {α : Type}

def row? (x : Extents) (side : Side) (layer cell : Nat) : Access α → Option (Row α)
  | .write w => w.row? x side layer cell
  | _ => none

def lastRow? (x : Extents) (side : Side) (layer cell : Nat) (accesses : List (Access α)) : Option (Row α) :=
  accesses.reverse.findSome? (row? x side layer cell)

end Access

namespace KeyValueCache

variable {α : Type} [Storable α]

def empty (x : Extents) (format : NumberFormat) : KeyValueCache α where
  table := .empty x.cells
  rows := .empty x.cells x.width x.layers format

def perform? (c : KeyValueCache α) : Access α → Option (KeyValueCache α)
  | .write w => (w.applyTo c.rows).map fun (_, rows) => { c with rows }
  | .find count => (c.table.find? count).map fun (_, table) => { c with table }
  | .occupy start positions sequences => (c.table.occupy? start positions sequences).map fun table => { c with table }
  | .release start count => (c.table.release? start count).map fun table => { c with table }
  | .share source target span => some { c with table := c.table.share source target span }
  | .clear => some { c with table := c.table.clear }

end KeyValueCache

/-! ### One write -/

namespace RowStore

variable {α : Type}

def row? (s : RowStore α) (side : Side) (layer cell : Nat) : Option (Row α) :=
  s.layers[layer]?.bind fun l => (l.side side)[cell]?

structure Sized (s : RowStore α) (x : Extents) (format : NumberFormat) : Prop where
  cells_eq : s.cells = x.cells
  width_eq : s.width = x.width
  format_eq : s.format = format
  layers_size : s.layers.size = x.layers
  side_size : ∀ (layer : Nat) (l : LayerRows α), s.layers[layer]? = some l → ∀ side, (l.side side).size = x.cells

variable {s : RowStore α} {x : Extents} {format : NumberFormat}

lemma Sized.accepts_iff (hs : s.Sized x format) (w : RowWrite α) (side : Side) :
    s.accepts w.start (w.side side) = true ↔ w.Fits x side := by
  simp [accepts, RowWrite.Fits, hs.cells_eq, hs.width_eq, and_comm]

lemma Sized.rows_eq (hs : s.Sized x format) {layer count : Nat} {l : LayerRows α} (hl : s.layers[layer]? = some l)
    (hcount : count ≤ x.cells) (side : Side) {rows : Nat → Row α}
    (hrows : ∀ cell < x.cells, s.row? side layer cell = some (rows cell)) :
    ((l.side side).extract 0 count).toList = (List.range count).map rows := by
  have hsize := hs.side_size layer l hl side
  apply List.ext_getElem
  · simp [hsize, hcount]
  · intro cell hcell _
    have hlt : cell < x.cells := by
      simp [hsize] at hcell
      omega
    have hrow := hrows cell hlt
    rw [row?, hl, Option.bind_some, Array.getElem?_eq_getElem (hsize ▸ hlt)] at hrow
    simpa using hrow

lemma Sized.read_eq (hs : s.Sized x format) {layer count : Nat} (hlayer : layer < x.layers) (hcount : count ≤ x.cells)
    {rows : Side → Nat → Row α} (hrows : ∀ side, ∀ cell < x.cells, s.row? side layer cell = some (rows side cell)) :
    s.read layer count = .ok ((List.range count).map (rows .keys), (List.range count).map (rows .values)) := by
  have hlt : layer < s.layers.size := hs.layers_size ▸ hlayer
  have hl : s.layers[layer]? = some s.layers[layer] := Array.getElem?_eq_getElem hlt
  rw [read, hl, ← hs.rows_eq hl hcount .keys (hrows .keys), ← hs.rows_eq hl hcount .values (hrows .values)]
  exact if_pos (hs.cells_eq ▸ hcount)

lemma Sized.read_error (hs : s.Sized x format) {layer count : Nat} (h : ¬ (layer < x.layers ∧ count ≤ x.cells)) :
    ∃ e, s.read layer count = .error e := by
  rw [read]
  cases hl : s.layers[layer]? with
  | none => exact ⟨_, rfl⟩
  | some l =>
    have hlayer : layer < x.layers := hs.layers_size ▸ (Array.getElem?_eq_some_iff.1 hl).1
    have hcount : ¬ count ≤ s.cells := fun hle => h ⟨hlayer, hs.cells_eq ▸ hle⟩
    exact ⟨_, if_neg hcount⟩

variable [Storable α]

def stored (format : NumberFormat) (r : Row α) : Row α := r.map (Storable.convert format)

def set (s : RowStore α) (w : RowWrite α) : Side → RowStore α
  | .keys => s.setKeys w.layer w.start w.keys
  | .values => s.setValues w.layer w.start w.values

lemma set_eq (s : RowStore α) (w : RowWrite α) (side : Side) :
    s.set w side = { s with
      layers := s.layers.modify w.layer fun l =>
        l.setSide (overwritten (l.side side) w.start ((w.side side).map (stored s.format))) side } := by
  cases side <;> rfl

lemma Sized.set (hs : s.Sized x format) (w : RowWrite α) (side : Side) : (s.set w side).Sized x format := by
  rw [set_eq]
  refine ⟨hs.cells_eq, hs.width_eq, hs.format_eq, by simpa using hs.layers_size, fun i l hl side' => ?_⟩
  rw [Array.getElem?_modify] at hl
  split at hl
  · obtain ⟨l', hl', rfl⟩ := Option.map_eq_some_iff.1 hl
    have hsize := hs.side_size i l' hl'
    rw [LayerRows.side_setSide]
    split <;> simp [hsize]
  · exact hs.side_size i l hl side'

lemma Sized.row?_set (hs : s.Sized x format) {w : RowWrite α} {side : Side} (hlayer : w.layer < x.layers)
    (hfits : w.Fits x side) (side' : Side) (layer cell : Nat) :
    (s.set w side).row? side' layer cell =
      ((if side' = side ∧ layer = w.layer ∧ w.start ≤ cell then (w.side side)[cell - w.start]? else none).map
        (stored format)).or (s.row? side' layer cell) := by
  rw [set_eq, row?, row?, Array.getElem?_modify]
  by_cases hl : layer = w.layer
  · subst hl
    have hlt : w.layer < s.layers.size := hs.layers_size ▸ hlayer
    let l := s.layers[w.layer]
    have hl : s.layers[w.layer]? = some l := Array.getElem?_eq_getElem hlt
    have hsize : w.start + ((w.side side).map (stored s.format)).length ≤ (l.side side).size := by
      simpa [hs.side_size w.layer l hl side] using hfits.1
    rw [if_pos rfl, hl, Option.map_some, Option.bind_some, Option.bind_some, LayerRows.side_setSide]
    by_cases hside : side' = side
    · subst hside
      rw [if_pos rfl, getElem?_overwritten hsize, hs.format_eq]
      by_cases hstart : w.start ≤ cell
      · rcases Nat.lt_or_ge cell (w.start + (w.side side').length) with hcell | hcell
        · have hrow : cell - w.start < (w.side side').length := by omega
          simp [hstart, hcell, hrow]
        · have hrow : (w.side side').length ≤ cell - w.start := by omega
          simp [hstart, hrow, Nat.not_lt.2 hcell]
      · simp [hstart]
    · simp [hside]
  · simp [hl, Ne.symm hl]

lemma Sized.write_cases (hs : s.Sized x format) (w : RowWrite α) :
    (w.Overruns x ∧ w.applyTo s = none) ∨
    (¬ w.Overruns x ∧ ¬ w.Stores x .keys ∧ ∃ e, w.applyTo s = some (.error e, s)) ∨
    (¬ w.Overruns x ∧ w.Stores x .keys ∧ ¬ w.Stores x .values ∧ ∃ e, w.applyTo s = some (.error e, s.set w .keys)) ∨
    (¬ w.Overruns x ∧ w.Stores x .keys ∧ w.Stores x .values ∧
      w.applyTo s = some (.ok (), (s.set w .keys).set w .values)) := by
  have hset : s.setKeys w.layer w.start w.keys = s.set w .keys := rfl
  have hkeys : s.accepts w.start w.keys = true ↔ w.Fits x .keys := hs.accepts_iff w .keys
  have hvalues : (s.set w .keys).accepts w.start w.values = true ↔ w.Fits x .values := (hs.set ..).accepts_iff w .values
  simp only [RowWrite.applyTo, write?, hs.layers_size, hs.cells_eq, hset, Bool.not_eq_true', ← Bool.not_eq_true, hkeys,
    hvalues]
  split_ifs with hlayer hword hend hfits hfits'
  · exact .inr (.inl ⟨fun h => absurd h.1 (Nat.not_lt.2 hlayer), fun h => absurd h.1 (Nat.not_lt.2 hlayer), _, rfl⟩)
  · exact .inl ⟨⟨Nat.lt_of_not_le hlayer, hword⟩, rfl⟩
  · exact .inr (.inl ⟨fun h => hword h.2, fun h => absurd h.2.1 (Nat.not_le.2 hend), _, rfl⟩)
  · refine .inr (.inr (.inr ⟨fun h => hword h.2, ⟨Nat.lt_of_not_le hlayer, hfits⟩, ?_, rfl⟩))
    exact ⟨Nat.lt_of_not_le hlayer, hfits, hfits'⟩
  · exact .inr (.inr (.inl ⟨fun h => hword h.2, ⟨Nat.lt_of_not_le hlayer, hfits⟩, fun h => hfits' h.2.2, _, rfl⟩))
  · exact .inr (.inl ⟨fun h => hword h.2, fun h => hfits h.2, _, rfl⟩)

structure Written (s : RowStore α) (x : Extents) (format : NumberFormat) (w : RowWrite α)
    (r : Except RowFault Unit × RowStore α) : Prop where
  ok_iff : r.1 = .ok () ↔ w.Stores x .keys ∧ w.Stores x .values
  kept : ¬ w.Stores x .keys → r.2 = s
  row_eq : ∀ side layer cell, r.2.row? side layer cell =
    ((w.row? x side layer cell).map (stored format)).or (s.row? side layer cell)

lemma Sized.applyTo_eq_none_iff (hs : s.Sized x format) (w : RowWrite α) : w.applyTo s = none ↔ w.Overruns x := by
  obtain ⟨hover, he⟩ | ⟨hover, -, e, he⟩ | ⟨hover, -, -, e, he⟩ | ⟨hover, -, -, he⟩ := hs.write_cases w <;> simp [*]

lemma Sized.written (hs : s.Sized x format) {w : RowWrite α} {r : Except RowFault Unit × RowStore α}
    (h : w.applyTo s = some r) : r.2.Sized x format ∧ s.Written x format w r := by
  obtain ⟨-, he⟩ | ⟨-, hkeys, e, he⟩ | ⟨-, hkeys, hvalues, e, he⟩ | ⟨-, hkeys, hvalues, he⟩ := hs.write_cases w <;>
    cases h.symm.trans he
  · have hvalues : ¬ w.Stores x .values := fun h => hkeys ⟨h.1, h.2.1⟩
    refine ⟨hs, by simp [hkeys], fun _ => rfl, fun side layer cell => ?_⟩
    cases side <;> simp [RowWrite.row?, hkeys, hvalues]
  · refine ⟨hs.set w .keys, by simp [hvalues], fun h => absurd hkeys h, fun side layer cell => ?_⟩
    rw [hs.row?_set hkeys.1 hkeys.2]
    cases side <;> simp [RowWrite.row?, hkeys, hvalues]
  · refine ⟨(hs.set w .keys).set w .values, by simp [hkeys, hvalues], fun h => absurd hkeys h, fun side layer cell => ?_⟩
    rw [(hs.set ..).row?_set hvalues.1 hvalues.2.2, hs.row?_set hkeys.1 hkeys.2]
    cases side <;> simp [RowWrite.row?, hkeys, hvalues]

lemma sized_empty (x : Extents) (format : NumberFormat) :
    (RowStore.empty x.cells x.width x.layers format : RowStore α).Sized x format := by
  refine ⟨rfl, rfl, rfl, by simp [RowStore.empty], fun layer l hl side => ?_⟩
  simp only [RowStore.empty, Array.getElem?_replicate] at hl
  split_ifs at hl with _ hcells <;> cases hl <;> cases side <;> simp [LayerRows.side, *]

def zeroRow (width : Nat) : Row α := Array.replicate width Storable.zero

lemma row?_empty {layer cell : Nat} (x : Extents) (format : NumberFormat) (side : Side) (hlayer : layer < x.layers)
    (hcell : cell < x.cells) :
    (RowStore.empty x.cells x.width x.layers format : RowStore α).row? side layer cell = some (zeroRow x.width) := by
  have hcells : x.cells ≠ 0 := Nat.ne_zero_of_lt hcell
  cases side <;> simp [row?, RowStore.empty, LayerRows.side, zeroRow, hcells, hlayer, hcell]

end RowStore

/-! ### Runs -/

namespace KeyValueCache

variable {α : Type} [Storable α] {c c' : KeyValueCache α} {x : Extents} {format : NumberFormat}

def Frames (c c' : KeyValueCache α) : Access α → Prop
  | .write _ => c'.table = c.table
  | _ => c'.rows = c.rows

lemma perform?_frames {a : Access α} (h : c.perform? a = some c') : c.Frames c' a := by
  cases a with
  | write w | find count | occupy start positions sequences | release start count =>
    obtain ⟨_, -, rfl⟩ := Option.map_eq_some_iff.1 h
    rfl
  | share source target span | clear =>
    cases h
    rfl

lemma perform?_rows {a : Access α} (hs : c.rows.Sized x format) (h : c.perform? a = some c') :
    c'.rows.Sized x format ∧ ∀ side layer cell, c'.rows.row? side layer cell =
      ((a.row? x side layer cell).map (RowStore.stored format)).or (c.rows.row? side layer cell) := by
  cases a with
  | write w =>
    obtain ⟨r, hr, rfl⟩ := Option.map_eq_some_iff.1 h
    obtain ⟨hsized, hwritten⟩ := hs.written hr
    exact ⟨hsized, hwritten.row_eq⟩
  | find | occupy | release | share | clear =>
    have hrows : c'.rows = c.rows := perform?_frames h
    rw [hrows]
    exact ⟨hs, fun _ _ _ => rfl⟩

/-- An access breaks off where it goes past the cells or the last word, or subtracts from less. -/
def Breaks (c : KeyValueCache α) (x : Extents) : Access α → Prop
  | .write w => w.Overruns x
  | .find count => 0 < count ∧ count ≤ c.table.size ∧ c.table.size < c.table.head
  | .occupy start positions sequences =>
    let entries := min positions.length sequences.length
    0 < entries ∧ c.table.size < start + entries ∨
      max c.table.size Memory.lastWord < start + positions.length ∨
      max c.table.size Memory.lastWord < c.table.used + positions.length
  | .release start count => c.table.size < start + count ∨ c.table.used < count
  | .share _ _ _ | .clear => False

lemma perform?_eq_none_iff (hs : c.rows.Sized x format) (a : Access α) : c.perform? a = none ↔ c.Breaks x a := by
  cases a with
  | write w => exact Option.map_eq_none_iff.trans (hs.applyTo_eq_none_iff w)
  | find count => exact Option.map_eq_none_iff.trans CellTable.find?_eq_none_iff
  | occupy start positions sequences =>
    have hlength (entry : Nat × SequenceSet → Cell) :
        ((positions.zip sequences).map entry).length = min positions.length sequences.length := by
      rw [List.length_map, List.length_zip]
    simp only [perform?, Option.map_eq_none_iff, CellTable.occupy?, ite_eq_right_iff, reduceCtorEq, imp_false, Breaks,
      CellTable.counts, decide_eq_true_eq, List.isEmpty_iff_length_eq_zero, hlength]
    omega
  | release start count =>
    simp only [perform?, Option.map_eq_none_iff, CellTable.release?, ite_eq_right_iff, reduceCtorEq, imp_false, Breaks]
    omega
  | share source target span | clear => exact ⟨fun h => absurd h (Option.some_ne_none _), False.elim⟩

def kept (x : Extents) (format : NumberFormat) (accesses : List (Access α)) (layer : Nat) (side : Side) (cell : Nat) :
    Row α :=
  ((Access.lastRow? x side layer cell accesses).map (RowStore.stored format)).getD (RowStore.zeroRow x.width)

lemma rows_kept {accesses : List (Access α)} (h : accesses.foldlM perform? (empty x format) = some c) :
    c.rows.Sized x format ∧ ∀ layer < x.layers, ∀ side, ∀ cell < x.cells,
      c.rows.row? side layer cell = some (kept x format accesses layer side cell) := by
  induction accesses using List.reverseRecOn generalizing c with
  | nil =>
    cases h
    exact ⟨RowStore.sized_empty x format, fun layer hlayer side cell hcell =>
      RowStore.row?_empty x format side hlayer hcell⟩
  | append_singleton accesses a ih =>
    rw [List.foldlM_append] at h
    obtain ⟨before, hbefore, h⟩ := Option.bind_eq_some_iff.1 h
    obtain ⟨hsized, hkept⟩ := ih hbefore
    obtain ⟨hsized', hrow⟩ := perform?_rows hsized (a := a) (by simpa using h)
    refine ⟨hsized', fun layer hlayer side cell hcell => ?_⟩
    rw [hrow, hkept layer hlayer side cell hcell, kept, kept, Access.lastRow?, Access.lastRow?, List.reverse_append]
    cases ha : a.row? x side layer cell <;> simp [ha]

theorem last_write_wins (x : Extents) (format : NumberFormat) {accesses : List (Access α)} {c : KeyValueCache α}
    (h : accesses.foldlM perform? (empty x format) = some c) :
    (∀ layer count, layer < x.layers ∧ count ≤ x.cells → c.rows.read layer count =
      .ok ((List.range count).map (kept x format accesses layer .keys),
        (List.range count).map (kept x format accesses layer .values))) ∧
    (∀ layer count, ¬ (layer < x.layers ∧ count ≤ x.cells) → ∃ e, c.rows.read layer count = .error e) ∧
    (∀ w : RowWrite α, (w.applyTo c.rows = none ↔ w.Overruns x) ∧
      ∀ r, w.applyTo c.rows = some r → c.rows.Written x format w r) ∧
    ∀ a, (c.perform? a = none ↔ c.Breaks x a) ∧ ∀ c', c.perform? a = some c' → c.Frames c' a := by
  obtain ⟨hsized, hkept⟩ := rows_kept h
  exact ⟨fun layer count hread => hsized.read_eq hread.1 hread.2 (hkept layer hread.1), fun _ _ => hsized.read_error,
    fun w => ⟨hsized.applyTo_eq_none_iff w, fun r hr => (hsized.written hr).2⟩,
    fun a => ⟨perform?_eq_none_iff hsized a, fun _ => perform?_frames⟩⟩

theorem keys_stay_where_values_do_not_fit :
    let row (n : Int) : Row Extended := #[.whole n]
    let both : RowWrite Extended := ⟨1, 0, [row 7, row 300], [row 8, row (-9)]⟩
    let keysOnly : RowWrite Extended := ⟨1, 1, [row 5], [row 1, row 2, row 3]⟩
    let nowhere : RowWrite Extended := ⟨2, 0, [row 6], [row 6]⟩
    let accesses : List (Access Extended) := [.write both, .occupy 0 [0, 1] [.ofList [0], .ofList [3]], .write keysOnly,
      .release 0 1, .clear, .write nowhere, .share 0 1 ⟨0, 9⟩, .find 4]
    ∃ c, accesses.foldlM perform? (empty ⟨3, 1, 2⟩ .word8) = some c ∧
      c.rows.read 1 3 = .ok ([row 7, row 5, row 0], [row 8, row 0, row 0]) ∧
      (∃ e, c.rows.read 1 4 = .error e) ∧ ∃ e, nowhere.applyTo c.rows = some (.error e, c.rows) := by
  intro row both keysOnly nowhere accesses
  obtain ⟨c, hrun⟩ : ∃ c, accesses.foldlM perform? (empty ⟨3, 1, 2⟩ .word8) = some c :=
    Option.isSome_iff_exists.1 (by decide +kernel)
  obtain ⟨hread, hfault, hwrite, -⟩ := last_write_wins ⟨3, 1, 2⟩ .word8 hrun
  refine ⟨c, hrun, (hread 1 3 (by decide)).trans (by decide +kernel), hfault 1 4 (by decide), ?_⟩
  obtain ⟨hbreaks, hwritten⟩ := hwrite nowhere
  obtain ⟨⟨outcome, rows⟩, hr⟩ := Option.ne_none_iff_exists'.1 fun h => absurd (hbreaks.1 h) (by decide)
  have hnothing : ¬ nowhere.Stores ⟨3, 1, 2⟩ .keys := by decide
  obtain rfl : rows = c.rows := (hwritten _ hr).kept hnothing
  cases outcome with
  | ok => exact absurd ((hwritten _ hr).ok_iff.1 rfl).1 hnothing
  | error e => exact ⟨e, hr⟩

theorem a_write_past_the_last_word_breaks_off :
    let zero : Row Extended := #[.whole 0, .whole 0]
    let w : RowWrite Extended := ⟨0, Memory.lastWord, [zero], [zero]⟩
    w.applyTo (.empty 2 2 1 .binary32) = none := by
  decide

end KeyValueCache

end DecodeBench.Cache
