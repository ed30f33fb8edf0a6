import DecodeBench.Proofs.Cache.Packed
import DecodeBench.Proofs.Engine.ForwardPass
import DecodeBench.Proofs.Plan.Calls

/-! The cache of an engine, as its user knows it: a list of entries that grows with every batch that
the engine accepts. The terms of the engine and the entries decide what becomes of a batch; the search
for cells and the numbers in the forward pass have no say in it. -/

namespace DecodeBench.Transformer

open Cache Model

structure Terms where
  dimensions : Dimensions
  limits : Limits
  device : Device
  format : NumberFormat

def Terms.Valid (t : Terms) (rs : List Request) : Prop :=
  rs ≠ [] ∧ rs.length ≤ t.limits.batch ∧ ∀ r ∈ rs,
    r.token < t.dimensions.vocabulary ∧ r.sequences ≠ [] ∧ ∀ id ∈ r.sequences, id < t.limits.sequences

instance (t : Terms) (rs : List Request) : Decidable (t.Valid rs) := by
  unfold Terms.Valid
  infer_instance

def Terms.Completes (t : Terms) (w : Work) : Prop :=
  ∀ stage ∈ w.stages t.dimensions.layers, t.device.completes t.format w stage = true

instance (t : Terms) (w : Work) : Decidable (t.Completes w) :=
  inferInstanceAs (Decidable (∀ _ ∈ _, _))

structure Terms.Poses (t : Terms) (w : Work) : Prop where
  valid : t.Valid w.requests
  claimed_le : w.start + w.requests.length ≤ w.extent
  extent_le : w.extent ≤ t.limits.cells
  rows : w.mask.length = w.requests.length
  columns : ∀ row ∈ w.mask, row.length = w.extent

def Terms.Computes (t : Terms) : Prop := ∀ w, t.Poses w → t.Completes w

def entry (r : Request) : Cell := ⟨r.position, .ofList r.sequences⟩

structure Ledger where
  entries : List Cell := []
  statistics : Statistics := {}

namespace Ledger

def work (l : Ledger) (rs : List Request) : Work where
  requests := rs
  start := l.entries.length
  extent := l.entries.length + rs.length
  mask := rs.map fun r => (l.entries ++ rs.map entry).map fun c => c.visibleTo (.ofList r.sequences) r.position

lemma poses_work {t : Terms} {l : Ledger} {rs : List Request} (hv : t.Valid rs)
    (hn : l.entries.length + rs.length ≤ t.limits.cells) : t.Poses (l.work rs) where
  valid := hv
  claimed_le := Nat.le_refl _
  extent_le := hn
  rows := List.length_map _
  columns row hrow := by
    obtain ⟨r, -, rfl⟩ := List.mem_map.1 hrow
    simp [work]

def status (t : Terms) (l : Ledger) (rs : List Request) : Int :=
  if t.Valid rs then
    if t.limits.cells < l.entries.length + rs.length then Refusal.noFreeCells.status
    else if t.Completes (l.work rs) then 0
    else Refusal.computeFailed.status
  else Refusal.invalidBatch.status

def accept (l : Ledger) (rs : List Request) : Ledger where
  entries := l.entries ++ rs.map entry
  statistics := { l.statistics with
    calls := l.statistics.calls + 1
    tokens := l.statistics.tokens + rs.length
    outputs := l.statistics.outputs + rs.countP (·.wantsLogits) }

def refuse (l : Ledger) : Ledger where
  entries := l.entries
  statistics := { l.statistics with calls := l.statistics.calls + 1, failed := l.statistics.failed + 1 }

def perform (t : Terms) (l : Ledger) : Call → Ledger
  | .decode w => if l.status t w.toList = 0 then l.accept w.toList else l.refuse
  | .clear => { l with entries := [] }
  | .share source target span => { l with entries := l.entries.map (Cell.shared source target span) }
  | .now => l

def after (t : Terms) (l : Ledger) (cs : List Call) : Ledger := cs.foldl (perform t) l

@[simp] lemma after_nil (t : Terms) (l : Ledger) : l.after t [] = l := rfl

@[simp] lemma after_cons (t : Terms) (l : Ledger) (c : Call) (cs : List Call) :
    l.after t (c :: cs) = (l.perform t c).after t cs := rfl

@[simp] lemma after_append (t : Terms) (l : Ledger) (cs ds : List Call) :
    l.after t (cs ++ ds) = (l.after t cs).after t ds := List.foldl_append

lemma status_eq_zero {t : Terms} {l : Ledger} {rs : List Request} :
    l.status t rs = 0 ↔
      t.Valid rs ∧ l.entries.length + rs.length ≤ t.limits.cells ∧ t.Completes (l.work rs) := by
  unfold status
  split_ifs with hv hn hf
  · simp [Refusal.status, Nat.not_le.2 hn]
  · simp [hv, hf, Nat.le_of_not_lt hn]
  · simp [hf, Refusal.status]
  · simp [hv, Refusal.status]

lemma status_eq_invalid {t : Terms} {l : Ledger} {rs : List Request} : l.status t rs = -1 ↔ ¬ t.Valid rs := by
  unfold status
  split_ifs with hv <;> simp [Refusal.status, hv]

lemma status_eq_full {t : Terms} {l : Ledger} {rs : List Request} :
    l.status t rs = 1 ↔ t.Valid rs ∧ t.limits.cells < l.entries.length + rs.length := by
  unfold status
  split_ifs <;> simp_all [Refusal.status]

end Ledger

namespace State

structure Balanced (t : Terms) (s : State) (l : Ledger) : Prop where
  limits : s.limits = t.limits
  dimensions : s.dimensions = t.dimensions
  device : s.device = t.device
  format : s.rows.format = t.format
  sequences_le : t.limits.sequences ≤ maxSequences
  table : s.table.Packed l.entries
  size : s.table.size = t.limits.cells
  shaped : s.Shaped
  statistics : s.statistics = l.statistics

lemma create_cases {d : Dimensions} {limits : Limits} {device : Device} {format : NumberFormat} {s : State}
    (h : create d limits device format = .ok s) : d.fault? = none ∧
      (0 < limits.sequences ∧ limits.sequences ≤ maxSequences) ∧ CellTable.fitsMemory limits.cells = true ∧
      s = {
        limits
        dimensions := d
        device
        weights := .draw d limits.seed
        table := .empty limits.cells
        rows := .empty limits.cells d.hidden d.layers format } := by
  simp only [create] at h
  split at h
  · cases h
  · rename_i hfault
    split_ifs at h with hsequences hroom hmemory
    cases h
    rw [not_or, Nat.not_lt] at hsequences
    simp only [fitsMemory, Bool.not_eq_true', Bool.not_eq_false, Bool.and_eq_true] at hmemory
    exact ⟨hfault, ⟨Nat.pos_of_ne_zero hsequences.1, hsequences.2⟩, hmemory.2, rfl⟩

lemma create_faultless {d : Dimensions} {limits : Limits} {device : Device} {format : NumberFormat} {s : State}
    (h : create d limits device format = .ok s) : d.fault? = none :=
  (create_cases h).1

lemma create_sequences {d : Dimensions} {limits : Limits} {device : Device} {format : NumberFormat} {s : State}
    (h : create d limits device format = .ok s) : 0 < limits.sequences ∧ limits.sequences ≤ maxSequences :=
  (create_cases h).2.1

lemma create_shaped {d : Dimensions} {limits : Limits} {device : Device} {format : NumberFormat} {s : State}
    (h : create d limits device format = .ok s) : s.Shaped := by
  obtain ⟨-, -, hmemory, rfl⟩ := create_cases h
  constructor
  case cells => simp [RowStore.empty, CellTable.empty, CellTable.size]
  case word =>
    have hblock : limits.cells * 16 < Nat.pow 2 63 := of_decide_eq_true hmemory
    have hword : Memory.lastWord = 2 * Nat.pow 2 63 - 1 := rfl
    simp only [RowStore.empty, hword]
    omega
  case count => simp [Weights.draw]
  case layers => simp [RowStore.empty, Weights.draw]
  case fits =>
    intro l hl
    obtain ⟨i, -, rfl⟩ := List.mem_map.1 hl
    constructor <;> simp [Weights.drawLayer, drawMatrix, RowStore.empty]

lemma create_balanced {d : Dimensions} {limits : Limits} {device : Device} {format : NumberFormat} {s : State}
    (h : create d limits device format = .ok s) : s.Balanced ⟨d, limits, device, format⟩ {} := by
  have hshaped := create_shaped h
  obtain ⟨-, hsequences, -, rfl⟩ := create_cases h
  exact {
    limits := rfl
    dimensions := rfl
    device := rfl
    format := rfl
    sequences_le := hsequences.2
    table := .empty limits.cells
    size := by simp [CellTable.empty, CellTable.size]
    shaped := hshaped
    statistics := rfl }

namespace Balanced

variable {t : Terms} {s : State} {l : Ledger}

lemma accepts_iff (h : s.Balanced t l) (rs : List Request) : s.accepts rs = true ↔ t.Valid rs := by
  simp [accepts, acceptsRequest, Terms.Valid, h.limits, h.dimensions, and_assoc]

lemma entry_occupied (h : s.Balanced t l) {rs : List Request} (hv : t.Valid rs) :
    ∀ c ∈ rs.map entry, c.isEmpty = false := by
  intro c hc
  obtain ⟨r, hr, rfl⟩ := List.mem_map.1 hc
  obtain ⟨-, hne, hlt⟩ := hv.2.2 r hr
  obtain ⟨id, hid⟩ := List.exists_mem_of_ne_nil _ hne
  have hbound : ∀ id ∈ r.sequences, id < maxSequences := fun id hid =>
    Nat.lt_of_lt_of_le (hlt id hid) h.sequences_le
  exact SequenceSet.isEmpty_eq_false ((SequenceSet.mem_ofList hbound).2 hid)

lemma with_table (h : s.Balanced t l) {table : CellTable} {entries : List Cell} (ht : table.Packed entries)
    (hs : table.size = t.limits.cells) : ({ s with table } : State).Balanced t { l with entries } :=
  ⟨h.limits, h.dimensions, h.device, h.format, h.sequences_le, ht, hs,
    h.shaped.congr (.refl _) (hs.trans h.size.symm) rfl rfl, h.statistics⟩

lemma with_statistics (h : s.Balanced t l) (statistics : Statistics) :
    ({ s with statistics } : State).Balanced t { l with statistics } :=
  ⟨h.limits, h.dimensions, h.device, h.format, h.sequences_le, h.table, h.size, h.shaped.congr (.refl _) rfl rfl rfl, rfl⟩

lemma with_rows (h : s.Balanced t l) {rows : RowStore Float} (ha : s.rows.Alike rows) (logits : List Vec) :
    ({ s with rows, logits } : State).Balanced t l :=
  ⟨h.limits, h.dimensions, h.device, ha.format.trans h.format, h.sequences_le, h.table, h.size,
    h.shaped.congr ha rfl rfl rfl, h.statistics⟩

lemma counted (h : s.Balanced t l) :
    s.counted.Balanced t { l with statistics := { l.statistics with calls := l.statistics.calls + 1 } } := by
  rw [← h.statistics]
  exact h.with_statistics _

lemma refuse (h : s.Balanced t l) (r : Refusal) :
    (s.refuse r).2.Balanced t { l with statistics := { l.statistics with failed := l.statistics.failed + 1 } } := by
  rw [← h.statistics]
  exact h.with_statistics _

variable {rs : List Request}

/-! What becomes of a batch up to its place -/

lemma place_invalid (h : s.Balanced t l) (hv : ¬ t.Valid rs) : s.place rs = (.error .invalidBatch, s) := by
  rw [place, if_neg (by rwa [h.accepts_iff])]

lemma place_full (h : s.Balanced t l) (hv : t.Valid rs) (hn : t.limits.cells < l.entries.length + rs.length) :
    ∃ head ≤ l.entries.length, s.place rs = (.error .noFreeCells, { s with table := { s.table with head } }) := by
  obtain ⟨head, hfind, hhead⟩ := h.table.find?_of_full (by rw [h.size]; exact hn)
  refine ⟨head, hhead, ?_⟩
  rw [place, if_pos ((h.accepts_iff rs).2 hv), hfind]
  rfl

lemma place_fits (h : s.Balanced t l) (hv : t.Valid rs) (hn : l.entries.length + rs.length ≤ t.limits.cells) :
    ∃ claimed : CellTable, claimed.size = t.limits.cells ∧ claimed.Packed (l.entries ++ rs.map entry) ∧
      s.place rs = (.ok l.entries.length, { s with table := claimed }) := by
  rw [← h.size] at hn
  have hhead := h.table.with_head (Nat.le_refl l.entries.length)
  obtain ⟨claimed, hclaim, hsize, hpacked⟩ :=
    hhead.occupy (show l.entries.length + (rs.map entry).length ≤ s.table.size by simpa using hn) (h.entry_occupied hv)
  rw [List.map_map, List.map_map] at hclaim
  have hclaim' : ({ s.table with head := l.entries.length } : CellTable).occupy? l.entries.length
      (rs.map (·.position)) (rs.map fun r => .ofList r.sequences) = some claimed := hclaim
  refine ⟨claimed, hsize.trans h.size, hpacked, ?_⟩
  rw [place, if_pos ((h.accepts_iff rs).2 hv), h.table.find?_of_fits (List.length_pos_iff.2 hv.1) hn]
  simp only [Option.getD_some, hclaim']

/-! What becomes of it then -/

lemma work_eq (h : s.table.Packed (l.entries ++ rs.map entry)) : s.work rs l.entries.length = l.work rs := by
  have hmask : s.attentionMask rs s.table.extent = (l.work rs).mask :=
    List.map_congr_left fun r _ => h.maskRow_eq (.ofList r.sequences) r.position
  rw [State.work, hmask, h.extent_eq, List.length_append, List.length_map]
  rfl

lemma placed_work (h : s.Balanced t l) (hv : t.Valid rs) (hn : l.entries.length + rs.length ≤ t.limits.cells) :
    (s.place rs).2.work rs s.table.used = l.work rs := by
  obtain ⟨claimed, -, hpacked, hplace⟩ := h.place_fits hv hn
  rw [hplace, h.table.used]
  exact work_eq (s := { s with table := claimed }) hpacked

section Compute

variable {statistics : Statistics} (h : s.Balanced t ⟨l.entries ++ rs.map entry, statistics⟩)
include h

lemma within_work : (l.work rs).Within s.rows := by
  have hle := h.table.length_le
  rw [List.length_append, List.length_map, ← h.shaped.cells] at hle
  exact ⟨hle, hle, h.shaped.word, List.length_map _⟩

lemma forward_passed : Passed s.rows (rs.countP (·.wantsLogits))
    (∀ stage ∈ (l.work rs).passStages t.dimensions.layers, t.device.completes t.format (l.work rs) stage = true)
    (s.forward (l.work rs)) := by
  have hpassed := State.forward_passed h.shaped h.within_work
  simp only [completes, h.dimensions, h.device, h.format] at hpassed
  exact hpassed

lemma compute_completed (hc : t.Completes (l.work rs)) : (s.compute (l.work rs)).1 = 0 ∧
    (s.compute (l.work rs)).2.Balanced t ⟨l.entries ++ rs.map entry, { statistics with
      tokens := statistics.tokens + rs.length
      outputs := statistics.outputs + rs.countP (·.wantsLogits) }⟩ := by
  have hpassed := h.forward_passed
  rcases hforward : s.forward (l.work rs) with ⟨_ | logits, rows⟩
  · rw [hforward] at hpassed
    exact absurd (hpassed.isSome_iff.2 fun stage hstage => hc stage (List.mem_append_left _ hstage)) (by simp)
  · rw [hforward] at hpassed
    have hcollect : s.completes (l.work rs) .collect = true := by
      rw [completes, h.device, h.format]
      exact hc .collect (List.mem_append_right _ (List.mem_singleton_self _))
    have hbalanced := (h.with_rows hpassed.alike logits).with_statistics { s.statistics with
      tokens := s.statistics.tokens + rs.length
      outputs := s.statistics.outputs + logits.length }
    obtain rfl : statistics = s.statistics := h.statistics.symm
    rw [compute, hforward, ← hpassed.length logits rfl]
    simp only [hcollect, if_true, true_and]
    exact hbalanced

lemma giveUp : ∃ freed : State, s.giveUp (l.work rs) = freed.refuse .computeFailed ∧
    freed.Balanced t ⟨l.entries, statistics⟩ := by
  have hpacked : s.table.Packed (l.entries ++ rs.map entry) := h.table
  obtain ⟨freed, hfree, hsize, hleft⟩ := hpacked.release
  rw [List.length_map] at hfree
  refine ⟨{ s with table := freed }, ?_, h.with_table hleft (hsize.trans h.size)⟩
  have hfree' : s.table.release? (l.work rs).start (l.work rs).requests.length = some freed := hfree
  rw [State.giveUp, hfree']
  rfl

lemma compute_refused (hc : ¬ t.Completes (l.work rs)) : (s.compute (l.work rs)).1 = Refusal.computeFailed.status ∧
    (s.compute (l.work rs)).2.Balanced t ⟨l.entries, { statistics with failed := statistics.failed + 1 }⟩ := by
  have hpassed := h.forward_passed
  have hgiveUp : ∀ (rows : RowStore Float) (logits : List Vec), s.rows.Alike rows →
      (({ s with rows, logits } : State).giveUp (l.work rs)).1 = Refusal.computeFailed.status ∧
        (({ s with rows, logits } : State).giveUp (l.work rs)).2.Balanced t
          ⟨l.entries, { statistics with failed := statistics.failed + 1 }⟩ := by
    intro rows logits ha
    obtain ⟨freed, hfreed, hbalanced⟩ := (h.with_rows ha logits).giveUp
    rw [hfreed]
    exact ⟨rfl, hbalanced.refuse .computeFailed⟩
  rcases hforward : s.forward (l.work rs) with ⟨_ | logits, rows⟩
  · rw [hforward] at hpassed
    rw [compute, hforward]
    exact hgiveUp rows s.logits hpassed.alike
  · rw [hforward] at hpassed
    have hcollect : ¬ s.completes (l.work rs) .collect = true := by
      intro hcollect
      rw [completes, h.device, h.format] at hcollect
      refine hc fun stage hstage => ?_
      rcases List.mem_append.1 hstage with hpass | hlast
      · exact hpassed.isSome_iff.1 rfl stage hpass
      · rwa [List.mem_singleton.1 hlast]
    rw [compute, hforward]
    simp only [if_neg hcollect]
    exact hgiveUp rows [] hpassed.alike

end Compute

lemma decode (h : s.Balanced t l) (rs : List Request) :
    (s.decodeRequests rs).1 = l.status t rs ∧
      (s.decodeRequests rs).2.Balanced t (if l.status t rs = 0 then l.accept rs else l.refuse) := by
  have hcounted := h.counted
  by_cases hv : t.Valid rs
  · by_cases hn : t.limits.cells < l.entries.length + rs.length
    · obtain ⟨head, hhead, hplace⟩ := hcounted.place_full hv hn
      have hstatus : l.status t rs = Refusal.noFreeCells.status := by simp [Ledger.status, hv, hn]
      rw [decodeRequests, hplace, hstatus]
      exact ⟨rfl, (hcounted.with_table (h.table.with_head hhead) h.size).refuse .noFreeCells⟩
    · obtain ⟨claimed, hsize, hpacked, hplace⟩ := hcounted.place_fits hv (Nat.le_of_not_lt hn)
      have hclaimed := hcounted.with_table hpacked hsize
      rw [decodeRequests, hplace]
      simp only [work_eq (s := { s.counted with table := claimed }) hpacked]
      by_cases hc : t.Completes (l.work rs)
      · have hstatus : l.status t rs = 0 := by simp [Ledger.status, hv, hn, hc]
        rw [hstatus]
        exact hclaimed.compute_completed hc
      · have hstatus : l.status t rs = Refusal.computeFailed.status := by simp [Ledger.status, hv, hn, hc]
        rw [hstatus]
        exact hclaimed.compute_refused hc
  · have hstatus : l.status t rs = Refusal.invalidBatch.status := by simp [Ledger.status, hv]
    rw [decodeRequests, hcounted.place_invalid hv, hstatus]
    exact ⟨rfl, hcounted.refuse .invalidBatch⟩

lemma clear (h : s.Balanced t l) : (Engine.clear s).Balanced t { l with entries := [] } := by
  refine h.with_table (.clear s.table) ?_
  rw [← h.size]
  simp [CellTable.clear, CellTable.empty, CellTable.size]

lemma share (h : s.Balanced t l) (source target : Nat) (span : Span) :
    (Engine.share source target span s).Balanced t
      { l with entries := l.entries.map (Cell.shared source target span) } :=
  h.with_table (h.table.share source target span) ((CellTable.share_size ..).trans h.size)

lemma perform (h : s.Balanced t l) (c : Call) : (Engine.perform s c).Balanced t (l.perform t c) := by
  cases c with
  | decode w => exact (h.decode w.toList).2
  | clear => exact h.clear
  | share source target span => exact h.share source target span
  | now => exact h

lemma after (h : s.Balanced t l) (cs : List Call) : (Engine.after s cs).Balanced t (l.after t cs) := by
  induction cs generalizing s l with
  | nil => exact h
  | cons c cs ih => exact ih (h.perform c)

end Balanced

end State

end DecodeBench.Transformer
