import DecodeBench.Proofs.Engine.Ledger
import DecodeBench.Transformer.Processor

/-! The cells of an engine fill up from the first one on, whatever calls are made of it in whatever
order, and its answers depend on the batch, the number of cells in use and what the device refuses. -/

namespace DecodeBench.Transformer.State

open Cache Model

/-- The cells and the counters of an engine of so many cells after these batches were accepted, the
second of them since the last clear. -/
structure Accounts (s : State) (cells : Nat) (accepted standing : List (List Request)) : Prop where
  size : s.table.cells.size = cells
  used_le : s.table.used ≤ cells
  occupied_iff : ∀ i c, s.table.cells[i]? = some c → (c.isEmpty = false ↔ i < s.table.used)
  extent : s.table.extent = s.table.used
  used : s.table.used = standing.flatten.length
  succeeded : s.statistics.calls - s.statistics.failed = accepted.length
  failed_le : s.statistics.failed ≤ s.statistics.calls
  tokens : s.statistics.tokens = accepted.flatten.length
  outputs : s.statistics.outputs = accepted.flatten.countP (·.wantsLogits)

structure Stores (s : State) (rs : List Request) (s' : State) : Prop where
  request : ∀ i r, rs[i]? = some r → ∃ c, s'.table.cells[s.table.used + i]? = some c ∧
    c.position = r.position ∧ ∀ id, id ∈ c.sequences ↔ id ∈ r.sequences
  other : ∀ i, i < s.table.used ∨ s.table.used + rs.length ≤ i → s'.table.cells[i]? = s.table.cells[i]?
  used : s'.table.used = s.table.used + rs.length

namespace Balanced

variable {t : Terms} {s : State} {l : Ledger}

lemma acceptedBy_decode (h : s.Balanced t l) (w : Window) :
    Engine.acceptedBy s (.decode w) = if l.status t w.toList = 0 then [w.toList] else [] := by
  rw [Engine.acceptedBy, ← (h.decode w.toList).1]
  rfl

lemma statistics_after (h : s.Balanced t l) (cs : List Call) :
    (l.after t cs).statistics.calls + l.statistics.failed =
        l.statistics.calls + (l.after t cs).statistics.failed + (Engine.accepted s cs).length ∧
      (l.after t cs).statistics.tokens = l.statistics.tokens + (Engine.accepted s cs).flatten.length ∧
      (l.after t cs).statistics.outputs =
        l.statistics.outputs + (Engine.accepted s cs).flatten.countP (·.wantsLogits) := by
  induction cs generalizing s l with
  | nil => simp [Engine.accepted]
  | cons c cs ih =>
    have hstep := ih (h.perform c)
    cases c with
    | decode w =>
      rw [Engine.accepted, h.acceptedBy_decode]
      simp only [Ledger.after_cons, Ledger.perform] at hstep ⊢
      split at hstep
      · simp_all [Ledger.accept]
        omega
      · simp_all [Ledger.refuse]
        omega
    | clear => exact hstep
    | share => exact hstep
    | now => exact hstep

lemma length_after (h : s.Balanced t l) (cs : List Call) :
    (l.after t cs).entries.length =
      (if .clear ∈ cs then 0 else l.entries.length) + (Engine.standing s cs).flatten.length := by
  induction cs generalizing s l with
  | nil => simp [Engine.standing]
  | cons c cs ih =>
    rw [Ledger.after_cons, ih (h.perform c), Engine.standing]
    by_cases hc : .clear ∈ cs
    · simp [hc]
    · cases c with
      | decode w =>
        rw [h.acceptedBy_decode]
        simp only [Ledger.perform, hc, if_false]
        split <;> simp [hc, Ledger.accept, Ledger.refuse, Nat.add_assoc]
      | clear => simp [hc, Ledger.perform, Engine.acceptedBy]
      | share => simp [hc, Ledger.perform, Engine.acceptedBy]
      | now => simp [hc, Ledger.perform, Engine.acceptedBy]

lemma accounts_after (h : s.Balanced t {}) (cs : List Call) :
    (Engine.after s cs).Accounts t.limits.cells (Engine.accepted s cs) (Engine.standing s cs) := by
  have h' := h.after cs
  obtain ⟨hcalls, htokens, houtputs⟩ := h.statistics_after cs
  have hlength := h.length_after cs
  have hused := h'.table.used
  have hsize := h'.size
  have hle := h'.table.length_le
  rw [← h'.statistics] at hcalls htokens houtputs
  refine {
    size := hsize
    used_le := by omega
    occupied_iff := fun i c hc => ?_
    extent := h'.table.extent_eq.trans hused.symm
    used := by rw [hused, hlength]; simp
    succeeded := by simp at hcalls; omega
    failed_le := by simp at hcalls; omega
    tokens := by simpa using htokens
    outputs := by simpa using houtputs }
  have hfree := h'.table.free_iff i
  rw [CellTable.Free, hc, Option.map_some, Option.getD_some] at hfree
  rw [← Bool.not_eq_true, hfree, hused, Nat.not_le]

lemma stores_of_entries (h : s.Balanced t l) {s' : State} {l' : Ledger} (h' : s'.Balanced t l') {rs : List Request}
    (hentries : l'.entries = l.entries ++ rs.map entry)
    (hids : ∀ r ∈ rs, ∀ id ∈ r.sequences, id < t.limits.sequences) : s.Stores rs s' := by
  have hused := h.table.used
  refine ⟨fun i r hr => ⟨entry r, ?_, rfl, fun id => ?_⟩, fun i hi => ?_, ?_⟩
  · obtain ⟨hi, -⟩ := List.getElem?_eq_some_iff.1 hr
    rw [h'.table.getElem?_cells, hused, hentries, if_pos (by simpa using hi)]
    rw [List.getElem?_append_right (by omega), List.getElem?_map]
    simp [hr]
  · have hlt := hids r (List.mem_of_getElem? hr)
    exact SequenceSet.mem_ofList fun id hid => Nat.lt_of_lt_of_le (hlt id hid) h.sequences_le
  · rw [h'.table.getElem?_cells, h.table.getElem?_cells, h'.size, h.size, hentries]
    simp only [List.length_append, List.length_map]
    rcases hi with hi | hi
    · rw [if_pos (by omega), if_pos (by omega), List.getElem?_append_left (by omega)]
    · rw [if_neg (by omega), if_neg (show ¬ i < l.entries.length by omega)]
  · rw [h'.table.used, hused, hentries, List.length_append, List.length_map]

lemma stores (h : s.Balanced t l) {rs : List Request} (hs : (s.decodeRequests rs).1 = 0) :
    s.Stores rs (s.decodeRequests rs).2 := by
  obtain ⟨hstatus, h'⟩ := h.decode rs
  rw [hs] at hstatus
  rw [if_pos hstatus.symm] at h'
  obtain ⟨hv, -, -⟩ := Ledger.status_eq_zero.1 hstatus.symm
  exact h.stores_of_entries h' rfl fun r hr => (hv.2.2 r hr).2.2

lemma unchanged (h : s.Balanced t l) {rs : List Request} (hs : (s.decodeRequests rs).1 ≠ 0) :
    (s.decodeRequests rs).2.table.cells = s.table.cells := by
  obtain ⟨hstatus, h'⟩ := h.decode rs
  rw [if_neg (by rwa [← hstatus])] at h'
  exact h.table.cells_eq h'.table (h'.size.trans h.size.symm)

end Balanced

theorem cells_fill_in_order {d : Dimensions} {limits : Limits} {device : Device} {format : NumberFormat} {fresh : State}
    (hcreate : create d limits device format = .ok fresh) (calls : List Call) :
    (Engine.after fresh calls).Accounts limits.cells (Engine.accepted fresh calls) (Engine.standing fresh calls) ∧
      ∀ w, let s := Engine.after fresh calls
        let rs := w.toList
        let work := (s.place rs).2.work rs s.table.used
        let invalid := rs = [] ∨ rs.length > limits.batch ∨
          ∃ r ∈ rs, r.token ≥ d.vocabulary ∨ r.sequences = [] ∨ ∃ id ∈ r.sequences, id ≥ limits.sequences
        ((Engine.decode w s).1 = -1 ↔ invalid) ∧
        ((Engine.decode w s).1 = 1 ↔ ¬ invalid ∧ s.table.used + rs.length > limits.cells) ∧
        ((Engine.decode w s).1 = 0 ↔
          ¬ invalid ∧ s.table.used + rs.length ≤ limits.cells ∧
            ∀ stage ∈ work.stages d.layers, device.completes format work stage = true) ∧
        ((Engine.decode w s).1 = 0 → s.Stores rs (Engine.decode w s).2) ∧
        ((Engine.decode w s).1 ≠ 0 → (Engine.decode w s).2.table.cells = s.table.cells) := by
  have hfresh := create_balanced hcreate
  refine ⟨hfresh.accounts_after calls, ?_⟩
  intro w s rs work invalid
  let t : Terms := ⟨d, limits, device, format⟩
  have hs : s.Balanced t _ := hfresh.after calls
  have hvalid : invalid ↔ ¬ t.Valid rs := by
    simp only [invalid, Terms.Valid, t]
    grind
  have hstatus : (Engine.decode w s).1 = _ := (hs.decode rs).1
  have hused : s.table.used = _ := hs.table.used
  refine ⟨?_, ?_, ?_, fun h => hs.stores h, fun h => hs.unchanged h⟩
  · rw [hstatus, Ledger.status_eq_invalid, hvalid]
  · rw [hstatus, Ledger.status_eq_full, hvalid, not_not, hused]
  · rw [hstatus, Ledger.status_eq_zero, hvalid, not_not, ← hused]
    exact and_congr_right fun hv => and_congr_right fun hn => hs.placed_work hv (hused ▸ hn) ▸ Iff.rfl

theorem two_cells_hold_two_requests :
    let w := (((Window.empty 1).push ⟨0, 0, [0], false⟩).push ⟨1, 1, [0], true⟩)
    ∃ fresh, create .tiny { cells := 2, batch := 4 } processor .binary32 = .ok fresh ∧
      (Engine.decode w fresh).1 = 0 ∧ (Engine.decode (w.push ⟨2, 0, [1], true⟩) fresh).1 = 1 := by
  have hcreate : create .tiny { cells := 2, batch := 4 } processor .binary32 = .ok _ := rfl
  refine ⟨_, hcreate, ?_, ?_⟩
  · exact ((cells_fill_in_order hcreate []).2 _).2.2.1.2 ⟨by decide, by decide, fun stage _ => by cases stage <;> rfl⟩
  · exact ((cells_fill_in_order hcreate []).2 _).2.1.2 (by decide)

end DecodeBench.Transformer.State
