import DecodeBench.Proofs.Chunking.Delivery
import DecodeBench.Proofs.Engine.Occupancy
import DecodeBench.Proofs.Engine.Tally

/-! How large the chunks are does not show in an engine that has room for all of a view. An engine that
has not stops at the first chunk that is too long for the cells left. -/

namespace DecodeBench

open Testbed

lemma Window.flatMap_take_chunks {w : Window} (hw : w.WellFormed) {limit k : Nat} (hl : 0 < limit)
    (hk : k ≤ w.size ⌈/⌉ limit) : ((w.chunks limit).take k).flatMap toList = w.toList.take (k * limit) := by
  rw [List.flatMap_def, List.map_take, toList_chunks hw hl, flatten_take_slices]
  rwa [hw.length_toList]

def oneByOne (rs : List Request) : List Call := rs.map fun r => .decode (.ofList r.sequences.length [r])

lemma toList_single (r : Request) : (Window.ofList r.sequences.length [r]).toList = [r] := Window.toList_ofList (by simp)

lemma decoded_oneByOne (rs : List Request) : decoded (oneByOne rs) = rs := by
  induction rs with
  | nil => rfl
  | cons r rs ih =>
    rw [oneByOne, List.map_cons, decoded_cons, Call.requests, toList_single, ← oneByOne, ih, List.singleton_append]

lemma adds_oneByOne (rs : List Request) : ∀ c ∈ oneByOne rs, c.Adds := by
  intro c hc
  obtain ⟨_, -, rfl⟩ := List.mem_map.1 hc
  trivial

namespace Transformer

namespace Terms

variable {t : Terms}

lemma serves_oneByOne {rs : List Request} (hbatch : 1 ≤ t.limits.batch) (htakes : ∀ r ∈ rs, t.Takes r) :
    ∀ c ∈ oneByOne rs, t.Serves c := by
  intro c hc
  obtain ⟨r, hr, rfl⟩ := List.mem_map.1 hc
  refine ⟨fun w hw => ?_, nofun⟩
  cases hw
  rw [toList_single]
  exact ⟨List.cons_ne_nil _ _, hbatch, List.forall_mem_singleton.2 (htakes r hr)⟩

end Terms

structure State.Agrees (s s' : State) : Prop where
  cells : s.table.cells = s'.table.cells
  used : s.table.used = s'.table.used
  tokens : s.statistics.tokens = s'.statistics.tokens
  outputs : s.statistics.outputs = s'.statistics.outputs

lemma State.Agrees.trans {s s' s'' : State} (h : s.Agrees s') (h' : s'.Agrees s'') : s.Agrees s'' :=
  ⟨h.cells.trans h'.cells, h.used.trans h'.used, h.tokens.trans h'.tokens, h.outputs.trans h'.outputs⟩

lemma State.Stores.of_agrees {s s' s'' : State} {rs : List Request} (h : s.Stores rs s') (ha : s''.Agrees s') :
    s.Stores rs s'' where
  request := by
    rw [ha.cells]
    exact h.request
  other := by
    rw [ha.cells]
    exact h.other
  used := ha.used.trans h.used

namespace State.Balanced

variable {t : Terms} {κ : Type} [Clock κ] {σ : Rig State κ} {l : Ledger}

lemma agrees (h : σ.engine.Balanced t l) {cs ds : List Call} (hcs : ∀ c ∈ cs, c.Adds) (hds : ∀ c ∈ ds, c.Adds)
    (hc : firstFailure? σ cs = none) (hd : firstFailure? σ ds = none) (hdecoded : decoded cs = decoded ds) :
    (Testbed.after σ cs).engine.Agrees (Testbed.after σ ds).engine := by
  have hc' := h.after_engine cs
  have hd' := h.after_engine ds
  have hentries : (l.after t cs).entries = (l.after t ds).entries := by
    rw [h.entries_after hcs hc, h.entries_after hds hd, hdecoded]
  have hpacked := hc'.table
  rw [hentries] at hpacked
  refine ⟨hd'.table.cells_eq hpacked (hc'.size.trans hd'.size.symm), ?_, ?_, ?_⟩
  · rw [hpacked.used, hd'.table.used]
  · simp only [h.statistics_of_no_failure hc, h.statistics_of_no_failure hd, Statistics.plus, hdecoded]
  · simp only [h.statistics_of_no_failure hc, h.statistics_of_no_failure hd, Statistics.plus, hdecoded]

lemma stores_decodes (h : σ.engine.Balanced t l) (hcomputes : t.Computes)
    (hbatch : 1 ≤ t.limits.batch) {ws : List Window} (hok : firstFailure? σ (ws.map .decode) = none) {rs : List Request}
    (hrs : decoded (ws.map .decode) = rs) (htakes : ∀ r ∈ rs, t.Takes r)
    (hfits : l.entries.length + rs.length ≤ t.limits.cells) :
    let s' := (Testbed.after σ (ws.map .decode)).engine
    σ.engine.Stores rs s' ∧ s'.Agrees (Testbed.after σ (oneByOne rs)).engine ∧ firstFailure? σ (oneByOne rs) = none := by
  intro s'
  have hentries := h.entries_after (adds_decodes ws) hok
  rw [hrs] at hentries
  have hsingle := h.firstFailure?_eq hcomputes (Terms.serves_oneByOne hbatch htakes)
  rw [decoded_oneByOne, if_pos hfits] at hsingle
  refine ⟨h.stores_of_entries (h.after_engine _) hentries fun r hr => (htakes r hr).2.2, ?_, hsingle⟩
  exact h.agrees (adds_decodes ws) (adds_oneByOne rs) hok hsingle (hrs.trans (decoded_oneByOne rs).symm)

lemma agrees_refused (h : σ.engine.Balanced t l) {w : Window} {status : Int}
    (hrefused : failure? σ (.decode w) = some status) : (Testbed.perform σ (.decode w)).engine.Agrees σ.engine := by
  have hstatus : l.status t w.toList ≠ 0 := by
    intro hzero
    rw [h.failure?_decode, if_pos hzero] at hrefused
    cases hrefused
  have h' := h.perform_engine (.decode w)
  rw [Ledger.perform, if_neg hstatus] at h'
  refine ⟨h.table.cells_eq h'.table (h'.size.trans h.size.symm), h'.table.used.trans h.table.used.symm, ?_, ?_⟩
  · rw [h'.statistics, h.statistics]
    rfl
  · rw [h'.statistics, h.statistics]
    rfl

section Chunks

variable (h : σ.engine.Balanced t l) (hcomputes : t.Computes) {w : Window} (hw : w.WellFormed)
  {limit : Nat} (positive : 0 < limit) (hserves : ∀ c ∈ (w.chunks limit).map .decode, t.Serves c)
include h hcomputes hw positive hserves

lemma firstFailure?_take {k : Nat} (hk : k ≤ w.size ⌈/⌉ limit) :
    firstFailure? σ (((w.chunks limit).take k).map .decode) =
      if l.entries.length + min (k * limit) w.size ≤ t.limits.cells then none else some 1 := by
  have hsub : ∀ c ∈ ((w.chunks limit).take k).map .decode, t.Serves c := by
    intro c hc
    rw [List.map_take] at hc
    exact hserves c (List.mem_of_mem_take hc)
  rw [h.firstFailure?_eq hcomputes hsub, decoded_decodes, Window.flatMap_take_chunks hw positive hk, List.length_take,
    hw.length_toList]

lemma firstFailure?_chunks : firstFailure? σ ((w.chunks limit).map .decode) =
    if l.entries.length + w.size ≤ t.limits.cells then none else some 1 := by
  rw [h.firstFailure?_eq hcomputes hserves, decoded_decodes, Window.flatMap_chunks hw positive, hw.length_toList]

lemma exists_full_chunk {k : Nat} (hk : k = (t.limits.cells - l.entries.length) / limit)
    (hfull : t.limits.cells < l.entries.length + w.size) :
    k < w.size ⌈/⌉ limit ∧ firstFailure? σ (((w.chunks limit).take k).map .decode) = none ∧
      ∃ refused, failure? (Testbed.after σ (((w.chunks limit).take k).map .decode)) (.decode refused) = some 1 ∧
        untilFailure σ ((w.chunks limit).map .decode) = ((w.chunks limit).take k ++ [refused]).map .decode := by
  -- The chunks before this one fit into the free cells, and together with this one they do not.
  have hle := h.length_le
  have hfits : k * limit ≤ t.limits.cells - l.entries.length := hk ▸ Nat.div_mul_le_self _ _
  have hnext : t.limits.cells - l.entries.length < (k + 1) * limit := by
    rw [hk, Nat.mul_comm]
    exact Nat.lt_mul_div_succ _ positive
  have hcount : k < (w.chunks limit).length := by
    rw [Window.length_chunks, ← Nat.not_le, ceilDiv_le_iff_le_mul positive, Nat.mul_comm]
    omega
  have hcount' : k + 1 ≤ w.size ⌈/⌉ limit := Window.length_chunks w limit ▸ hcount
  have hbefore := h.firstFailure?_take hcomputes hw positive hserves (Nat.le_of_succ_le hcount')
  have htogether := h.firstFailure?_take hcomputes hw positive hserves hcount'
  rw [if_pos (by omega)] at hbefore
  rw [if_neg (by omega), List.take_succ_eq_append_getElem hcount, List.map_append, firstFailure?_append, hbefore,
    Option.none_or, List.map_singleton, firstFailure?, firstFailure?, Option.or_none] at htogether
  refine ⟨hcount', hbefore, (w.chunks limit)[k], htogether, ?_⟩
  have hcut : (w.chunks limit).map Call.decode = ((w.chunks limit).take k).map .decode ++
      .decode (w.chunks limit)[k] :: ((w.chunks limit).drop (k + 1)).map .decode := by
    rw [← List.map_cons, ← List.map_append, List.getElem_cons_drop, List.take_append_drop]
  rw [hcut, untilFailure_append, untilFailure_eq_self hbefore, hbefore, untilFailure, htogether, List.map_append,
    List.map_singleton]

variable (hbatch : 1 ≤ t.limits.batch) (htakes : ∀ r ∈ w.toList, t.Takes r) (records : Array Record)
include hbatch htakes

lemma run_of_fits (hfits : l.entries.length + w.size ≤ t.limits.cells) :
    let ran := (decodeInChunks w limit).run σ records
    (∃ count, ran.1 = .ok count) ∧ σ.engine.Stores w.toList ran.2.1.engine ∧
      ran.2.1.engine.Agrees (Testbed.after σ (oneByOne w.toList)).engine ∧
      firstFailure? σ (oneByOne w.toList) = none := by
  intro ran
  have hok := h.firstFailure?_chunks hcomputes hw positive hserves
  rw [if_pos hfits] at hok
  have hran : ran = (submit (w.chunks limit) 0).run σ records := by
    rw [← decodeInChunks_eq (Nat.ne_of_gt positive)]
  have hanswer : ran.1 = .ok (0 + (w.chunks limit).length) := by
    rw [hran, submit_answer, hok]
  have hbed : ran.2.1 = Testbed.after σ ((w.chunks limit).map .decode) := by
    rw [hran, Plan.run_bed, submit_calls, untilFailure_eq_self hok]
  rw [hbed]
  refine ⟨⟨_, hanswer⟩, h.stores_decodes hcomputes hbatch hok ?_ htakes (by rwa [hw.length_toList])⟩
  rw [decoded_decodes, Window.flatMap_chunks hw positive]

lemma run_of_full {k : Nat} (hk : k = (t.limits.cells - l.entries.length) / limit)
    (hfull : t.limits.cells < l.entries.length + w.size) :
    let ran := (decodeInChunks w limit).run σ records
    let stored := w.toList.take (limit * k)
    ran.1 = .error (.decodeFailed k 1) ∧ stored.length = limit * k ∧ σ.engine.Stores stored ran.2.1.engine ∧
      ran.2.1.engine.Agrees (Testbed.after σ (oneByOne stored)).engine := by
  intro ran stored
  obtain ⟨hcount, hbefore, refused, hrefused, hmade⟩ := h.exists_full_chunk hcomputes hw positive hserves hk hfull
  have hran : ran = (submit (w.chunks limit) 0).run σ records := by
    rw [← decodeInChunks_eq (Nat.ne_of_gt positive)]
  have hfirst := h.firstFailure?_chunks hcomputes hw positive hserves
  rw [if_neg (Nat.not_le.2 hfull)] at hfirst
  have hlength : ((w.chunks limit).take k).length = k := by
    rw [List.length_take, Window.length_chunks, Nat.min_eq_left (Nat.le_of_lt hcount)]
  have hanswer : ran.1 = .error (.decodeFailed k 1) := by
    rw [hran, submit_answer, hfirst, hmade]
    simp only [List.length_map, List.length_append, List.length_singleton, hlength, Nat.zero_add, Nat.add_sub_cancel]
  have hbed : ran.2.1 = Testbed.perform (Testbed.after σ (((w.chunks limit).take k).map .decode)) (.decode refused) := by
    rw [hran, Plan.run_bed, submit_calls, hmade, List.map_append, Testbed.after_append]
    rfl
  have hdiv : limit * k ≤ t.limits.cells - l.entries.length := hk ▸ Nat.mul_div_le _ _
  have hstored : stored.length = limit * k := by
    rw [List.length_take, hw.length_toList]
    omega
  have hle := h.length_le
  have hdecoded : decoded (((w.chunks limit).take k).map .decode) = stored := by
    rw [decoded_decodes, Window.flatMap_take_chunks hw positive (Nat.le_of_lt hcount), Nat.mul_comm]
  obtain ⟨hstores, hagrees, -⟩ := h.stores_decodes hcomputes hbatch hbefore hdecoded
    (fun r hr => htakes r (List.mem_of_mem_take hr)) (by omega)
  have hlast := (h.after_engine _).agrees_refused hrefused
  rw [hbed]
  exact ⟨hanswer, hstored, hstores.of_agrees hlast, hlast.trans hagrees⟩

end Chunks

end State.Balanced

theorem State.chunk_size_does_not_show {d : Model.Dimensions} {limits : Limits} {device : Device}
    {format : Cache.NumberFormat} {fresh : State} (hcreate : create d limits device format = .ok fresh)
    (hcomputes : Terms.Computes ⟨d, limits, device, format⟩) (history : List Call) {κ : Type} [Clock κ] (clock : κ)
    (records : Array Record) {w : Window} (hw : w.IsView)
    (hvalid : ∀ r ∈ w.toList, r.token < d.vocabulary ∧ r.sequences ≠ [] ∧ ∀ id ∈ r.sequences, id < limits.sequences)
    {limit : Nat} (positive : 1 ≤ limit) (hlimit : limit ≤ limits.batch) :
    let s := Engine.after fresh history
    let ran := (decodeInChunks w limit).run (⟨s, clock⟩ : Rig State κ) records
    let s' := ran.2.1.engine
    ∃ free, s.table.free? = some free ∧
      let stored := w.toList.take (limit * (free / limit))
      ((∃ count, ran.1 = .ok count) ↔ w.toList.length ≤ free) ∧
      (w.toList.length ≤ free → s.Stores w.toList s' ∧ s'.Agrees (Engine.after s (oneByOne w.toList)) ∧
        ∀ status ∈ Engine.statuses s (oneByOne w.toList), status = 0) ∧
      (free < w.toList.length → ran.1 = .error (.decodeFailed (free / limit) 1) ∧
        stored.length = limit * (free / limit) ∧ s.Stores stored s' ∧
        s'.Agrees (Engine.after s (oneByOne stored))) := by
  intro s ran s'
  let t : Terms := ⟨d, limits, device, format⟩
  let σ : Rig State κ := ⟨s, clock⟩
  obtain ⟨l, hs⟩ : ∃ l, σ.engine.Balanced t l := ⟨_, (create_balanced hcreate).after history⟩
  have hw := hw.wellFormed
  have htakes : ∀ r ∈ w.toList, t.Takes r := hvalid
  have hbatch : 1 ≤ t.limits.batch := Nat.le_trans positive hlimit
  have hserves := Terms.serves_chunks hw positive hlimit htakes
  have hle := hs.length_le
  have hfree : s.table.free? = some (t.limits.cells - l.entries.length) := by
    rw [Cache.CellTable.free?, hs.size, hs.table.used, if_pos hle]
  refine ⟨_, hfree, ?_⟩
  rw [hw.length_toList]
  by_cases hfits : w.size ≤ t.limits.cells - l.entries.length
  · obtain ⟨hok, hstores, hagrees, hsingle⟩ :=
      hs.run_of_fits hcomputes hw positive hserves hbatch htakes records (by omega)
    rw [Rig.after_engine] at hagrees
    refine ⟨iff_of_true hok hfits, fun _ => ⟨hstores, hagrees, Rig.firstFailure?_eq_none.1 hsingle⟩, fun hfull => ?_⟩
    exact absurd hfits (Nat.not_le.2 hfull)
  · obtain ⟨hfailed, hlength, hstores, hagrees⟩ :=
      hs.run_of_full hcomputes hw positive hserves hbatch htakes records rfl (by omega)
    rw [Rig.after_engine] at hagrees
    refine ⟨iff_of_false ?_ hfits, fun h => absurd h hfits, fun _ => ⟨hfailed, hlength, hstores, hagrees⟩⟩
    rintro ⟨count, hok⟩
    cases hfailed.symm.trans hok

theorem State.four_requests_stop_short_of_three_cells :
    let requests : List Request := [⟨7, 0, [0], false⟩, ⟨8, 0, [1], false⟩, ⟨9, 1, [0, 1], true⟩, ⟨9, 2, [1], true⟩]
    ∃ b fresh, Batch.ofList 4 2 requests = .ok b ∧
      create .tiny { cells := 3, batch := 2 } processor .binary32 = .ok fresh ∧
      let ran := (decodeInChunks b.window 2).run (⟨fresh, ⟨⟩⟩ : Rig State NoClock) #[]
      ran.1 = .error (.decodeFailed 1 1) ∧ fresh.Stores (requests.take 2) ran.2.1.engine := by
  intro requests
  have hb : Batch.ofList 4 2 requests = .ok _ := rfl
  have hcreate : create .tiny { cells := 3, batch := 2 } processor .binary32 = .ok _ := rfl
  refine ⟨_, _, hb, hcreate, ?_⟩
  have hview := Window.IsView.whole (Batch.reached_ofList hb)
  obtain ⟨free, hfree, -, -, hfull⟩ := chunk_size_does_not_show hcreate (Terms.computes_processor _ _) [] (⟨⟩ : NoClock) #[]
    hview (fun r hr => by revert r; decide) (show 1 ≤ 2 by decide) (by decide)
  cases hfree
  obtain ⟨hfailed, -, hstores, -⟩ := hfull (by decide)
  exact ⟨hfailed, hstores⟩

theorem State.one_free_cell_is_not_enough_without_products :
    let w : Window := .ofList 1 [⟨0, 0, [0], true⟩]
    let limits : Limits := { cells := 1, batch := 1 }
    ∃ fresh, create .tiny limits processor .bfloat16 = .ok fresh ∧ fresh.table.free? = some w.toList.length ∧
      (∀ r ∈ w.toList, r.token < Model.Dimensions.tiny.vocabulary ∧ r.sequences ≠ [] ∧
        ∀ id ∈ r.sequences, id < limits.sequences) ∧
      ¬ ∃ count, ((decodeInChunks w 1).run (⟨fresh, ⟨⟩⟩ : Rig State NoClock) #[]).1 = .ok count := by
  intro w limits
  have hcreate : create .tiny limits processor .bfloat16 = .ok _ := rfl
  refine ⟨_, hcreate, by decide, by decide, ?_⟩
  rintro ⟨count, hok⟩
  have hchunks : w.chunks 1 = [w] := by decide
  have hstatus : Ledger.status ⟨.tiny, limits, processor, .bfloat16⟩ {} w.toList = -2 := by decide
  have hfailed := (create_balanced hcreate).failure?_decode (σ := (⟨_, ⟨⟩⟩ : Rig State NoClock)) w
  rw [hstatus, if_neg (by decide)] at hfailed
  rw [decodeInChunks_eq Nat.one_ne_zero, submit_answer, hchunks, List.map_singleton, firstFailure?, hfailed] at hok
  cases hok

end Transformer

end DecodeBench
