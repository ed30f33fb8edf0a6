import DecodeBench.Proofs.Batch.Views
import DecodeBench.Proofs.Plan.Failures
import DecodeBench.Proofs.Plan.Steps
import DecodeBench.Scripted

/-! A view is handed over in chunks: slices of one length, one behind the other, and all of them unless
the engine refuses one. -/

namespace DecodeBench

namespace Window

/-- The chunks from this place on, in the way of a loop that adds in 64-bit words and cuts off one slice
in each round. There is no answer if a sum does not fit into a word or a slice goes past the end. -/
def cut? (w : Window) (limit : Nat) (positive : 0 < limit) (start : Nat) : Option (List Window) :=
  if start < w.size then
    if start + limit < 2 ^ 64 then do
      let chunk ← w.slice? start (min (start + limit) w.size)
      let rest ← w.cut? limit positive (min (start + limit) w.size)
      return chunk :: rest
    else none
  else some []
termination_by w.size - start

variable {w : Window} {limit : Nat}

lemma cut?_eq (positive : 0 < limit) (hlimit : limit < 2 ^ 64) (hsize : w.size < 2 ^ 63) {k count : Nat}
    (hk : k + count = w.size ⌈/⌉ limit) : w.cut? limit positive (min (k * limit) w.size) =
      some ((List.range' k count).map fun k => w.extract (k * limit) (min ((k + 1) * limit) w.size)) := by
  induction count generalizing k with
  | zero =>
    have hall : w.size ≤ k * limit := by
      have hle := (ceilDiv_le_iff_le_mul positive).1 (Nat.le_of_eq hk.symm)
      rwa [Nat.add_zero, Nat.mul_comm] at hle
    rw [Nat.min_eq_right hall, cut?, if_neg (Nat.lt_irrefl _)]
    rfl
  | succ count ih =>
    have hlt : k * limit < w.size := lt_slice_count positive (by omega)
    -- The first sum is the limit itself; a later one is less than twice the size, since the limit is less than the size.
    have hsum : k * limit + limit < 2 ^ 64 := by
      rcases Nat.eq_zero_or_pos k with rfl | hpos
      · omega
      · have hle := Nat.le_mul_of_pos_left limit hpos
        omega
    have hnext := ih (k := k + 1) (by omega)
    rw [Nat.succ_mul] at hnext
    rw [Nat.min_eq_left (Nat.le_of_lt hlt), cut?, if_pos hlt, if_pos hsum, hnext, slice?,
      if_pos ⟨by omega, Nat.min_le_right _ _⟩, List.range'_succ, List.map_cons, Nat.succ_mul]
    rfl

lemma chunks_eq_cut? (positive : 0 < limit) (hlimit : limit < 2 ^ 64) (hsize : w.size < 2 ^ 63) :
    w.cut? limit positive 0 = some (w.chunks limit) := by
  have hcut := cut?_eq positive hlimit hsize (Nat.zero_add (w.size ⌈/⌉ limit))
  rw [Nat.zero_mul, Nat.zero_min] at hcut
  rw [hcut, ← List.range_eq_range', chunks, Nat.ceilDiv_eq_add_pred_div]

lemma length_of_mem_dropLast (hw : w.WellFormed) (positive : 0 < limit) {c : Window}
    (hc : c ∈ (w.chunks limit).dropLast) : c.toList.length = min limit w.size := by
  obtain ⟨k, hk, rfl⟩ := List.mem_iff_getElem.1 hc
  rw [List.length_dropLast, length_chunks] at hk
  have hlt : (k + 1) * limit < w.size := lt_slice_count positive (by omega)
  have hle := Nat.le_mul_of_pos_left limit (Nat.succ_pos k)
  simp only [List.getElem_dropLast, chunks, List.getElem_map, List.getElem_range]
  rw [hw.toList_extract (by rw [Nat.succ_mul] at hlt ⊢; omega) (Nat.min_le_right _ _)]
  simp only [List.extract, List.length_take, List.length_drop, hw.length_toList]
  rw [Nat.succ_mul] at hlt ⊢
  omega

end Window

namespace Engine

variable {ε : Type} [Engine ε] {e : ε}

lemma statuses_append (cs ds : List Call) : statuses e (cs ++ ds) = statuses e cs ++ statuses (after e cs) ds := by
  induction cs generalizing e with
  | nil => rfl
  | cons c cs ih => rw [List.cons_append, statuses, ih, statuses, List.append_assoc, after_cons]

lemma length_statuses_decodes (ws : List Window) : (statuses e (ws.map .decode)).length = ws.length := by
  induction ws generalizing e with
  | nil => rfl
  | cons w ws ih => rw [List.map_cons, statuses, List.length_append, ih, List.length_cons, Nat.add_comm]; rfl

end Engine

section Submission

open Testbed

lemma exists_failed_window {σ : Type} [Testbed σ] {s : σ} {ws : List Window} {status : Int}
    (h : firstFailure? s (ws.map .decode) = some status) :
    ∃ before w rest, ws = before ++ w :: rest ∧ untilFailure s (ws.map .decode) = (before ++ [w]).map .decode ∧
      firstFailure? s (before.map .decode) = none ∧
      failure? (after s (before.map .decode)) (.decode w) = some status := by
  obtain ⟨before, w, rest, hcut, hmade, hbefore, hw⟩ := exists_first_failure h
  obtain ⟨ws₁, ws₂, rfl, rfl, hws₂⟩ := List.map_eq_append_iff.1 hcut
  obtain ⟨w', ws₃, rfl, hw', rfl⟩ := List.map_eq_cons_iff.1 hws₂
  cases hw'
  exact ⟨ws₁, w, ws₃, rfl, by rw [hmade, List.map_append, List.map_singleton], hbefore, hw⟩

variable {ε κ : Type} [Engine ε] [Clock κ] {s : Rig ε κ}

lemma statuses_of_no_failure {ws : List Window} (h : firstFailure? s (ws.map .decode) = none) :
    Engine.statuses s.engine (ws.map .decode) = List.replicate ws.length 0 :=
  List.eq_replicate_iff.2 ⟨Engine.length_statuses_decodes ws, Rig.firstFailure?_eq_none.1 h⟩

lemma statuses_of_failure {before : List Window} {w : Window} {status : Int}
    (hbefore : firstFailure? s (before.map .decode) = none)
    (h : failure? (after s (before.map .decode)) (.decode w) = some status) : status ≠ 0 ∧
      Engine.statuses s.engine ((before ++ [w]).map .decode) = List.replicate before.length 0 ++ [status] := by
  have hanswer : (answer (.decode w) (after s (before.map .decode))).1 =
      (Engine.decode w (Engine.after s.engine (before.map .decode))).1 := by
    rw [← Rig.after_engine]
    rfl
  rw [failure?, hanswer] at h
  split_ifs at h with hzero
  cases h
  refine ⟨hzero, ?_⟩
  rw [List.map_append, Engine.statuses_append, statuses_of_no_failure hbefore]
  rfl

lemma exists_delivered (ws : List Window) (records : Array Record) :
    ∃ delivered rest, ws = delivered ++ rest ∧ (submit ws 0).calls s = delivered.map .decode ∧
      (rest = [] ∧ ((submit ws 0).run s records).1 = .ok ws.length ∧
          Engine.statuses s.engine (delivered.map .decode) = List.replicate ws.length 0 ∨
        ∃ k status, status ≠ 0 ∧ delivered.length = k + 1 ∧
          ((submit ws 0).run s records).1 = .error (.decodeFailed k status) ∧
          Engine.statuses s.engine (delivered.map .decode) = List.replicate k 0 ++ [status]) := by
  rw [submit_calls, submit_answer]
  cases hf : firstFailure? s (ws.map .decode) with
  | none =>
    refine ⟨ws, [], (List.append_nil ws).symm, untilFailure_eq_self hf, .inl ⟨rfl, ?_, statuses_of_no_failure hf⟩⟩
    simp only [Nat.zero_add]
  | some status =>
    obtain ⟨before, w, rest, hcut, hmade, hbefore, hw⟩ := exists_failed_window hf
    obtain ⟨hstatus, hstatuses⟩ := statuses_of_failure hbefore hw
    refine ⟨before ++ [w], rest, by rw [hcut, List.append_assoc, List.singleton_append], hmade, .inr ?_⟩
    refine ⟨before.length, status, hstatus, List.length_append, ?_, hstatuses⟩
    simp only [hmade, List.length_map, List.length_append, List.length_singleton, Nat.zero_add, Nat.add_sub_cancel]

lemma submit_bed {ws delivered : List Window} (h : (submit ws 0).calls s = delivered.map .decode)
    (records : Array Record) :
    ((submit ws 0).run s records).2 = (⟨Engine.after s.engine (delivered.map .decode), s.clock⟩, records) := by
  have hnow : (delivered.map Call.decode).count .now = 0 := by
    refine List.count_eq_zero.2 fun hmem => ?_
    obtain ⟨_, -, hdecode⟩ := List.mem_map.1 hmem
    cases hdecode
  refine Prod.ext ?_ ((Plan.always_submit ws 0).run s records).2
  dsimp only
  rw [Plan.run_bed, h, Rig.after_eq, hnow]
  rfl

theorem chunks_are_delivered_until_one_fails (engine : ε) (clock : κ) (records : Array Record) {w : Window}
    (hw : w.IsView) (limit : Nat) :
    let start : Rig ε κ := ⟨engine, clock⟩
    let made := (decodeInChunks w limit).calls start
    let ran := (decodeInChunks w limit).run start records
    (limit = 0 → made = [] ∧ ran = (.error (.invalidConfig .noChunkSize), start, records)) ∧
    ∀ positive : 0 < limit, ∃ delivered rest,
      made = delivered.map .decode ∧ ran.2 = (⟨Engine.after engine made, clock⟩, records) ∧
      (limit < 2 ^ 64 → w.size < 2 ^ 63 → w.cut? limit positive 0 = some (delivered ++ rest)) ∧
      w.toList.length = w.size ∧ (delivered ++ rest).flatMap Window.toList = w.toList ∧
      (∀ chunk ∈ delivered ++ rest, chunk.toList ≠ []) ∧
      (∀ chunk ∈ (delivered ++ rest).dropLast, chunk.toList.length = min limit w.size) ∧
      (rest = [] ∧ ran.1 = .ok (w.size ⌈/⌉ limit) ∧
          Engine.statuses engine made = List.replicate (w.size ⌈/⌉ limit) 0 ∨
        ∃ k status, status ≠ 0 ∧ delivered.length = k + 1 ∧ ran.1 = .error (.decodeFailed k status) ∧
          Engine.statuses engine made = List.replicate k 0 ++ [status]) := by
  intro start made ran
  refine ⟨fun hzero => ?_, fun positive => ?_⟩
  · subst hzero
    exact ⟨rfl, rfl⟩
  have hw := hw.wellFormed
  have hplan := decodeInChunks_eq (Nat.ne_of_gt positive) w
  obtain ⟨delivered, rest, hcut, hmade, hend⟩ := exists_delivered (s := start) (w.chunks limit) records
  have hbed := submit_bed hmade records
  rw [← hplan] at hmade hbed hend
  rw [Window.length_chunks, ← hmade] at hend
  rw [← hmade] at hbed
  refine ⟨delivered, rest, hmade, hbed, ?_, hw.length_toList, ?_, ?_, ?_, hend⟩
  all_goals rw [← hcut]
  · exact Window.chunks_eq_cut? positive
  · exact Window.flatMap_chunks hw positive
  · exact fun chunk hchunk => (Window.mem_chunks hw positive hchunk).1
  · exact fun chunk hchunk => Window.length_of_mem_dropLast hw positive hchunk

theorem second_chunk_of_a_slice_fails :
    let start : Rig ScriptedEngine NoClock := ⟨{ script := { failAt := [(1, 7)] } }, ⟨⟩⟩
    let requests : List Request := [⟨4, 0, [0, 1], false⟩, ⟨5, 1, [0], false⟩, ⟨6, 2, [1], true⟩, ⟨7, 3, [0, 1], true⟩]
    ∃ b w, Batch.ofList 4 2 requests = .ok b ∧ b.window.slice? 1 4 = some w ∧
      ∃ delivered rest : List Window, (decodeInChunks w 2).calls start = delivered.map .decode ∧
        ((decodeInChunks w 2).run start #[]).1 = .error (.decodeFailed 1 7) ∧ delivered.length = 2 ∧
        (delivered ++ rest).flatMap Window.toList = requests.drop 1 := by
  intro start requests
  let b : Batch := ⟨4, .ofList 2 requests⟩
  let w : Window := b.window.extract 1 4
  have hb : Batch.ofList 4 2 requests = .ok b := rfl
  have hw : b.window.slice? 1 4 = some w := rfl
  refine ⟨b, w, hb, hw, ?_⟩
  obtain ⟨-, hdelivered⟩ := chunks_are_delivered_until_one_fails start.engine start.clock #[]
    (.slice (.whole (Batch.reached_ofList hb)) hw) 2
  obtain ⟨delivered, rest, hmade, -, -, -, hall, -, -, hend⟩ := hdelivered (by decide)
  have hfailed : ((decodeInChunks w 2).run start #[]).1 = .error (.decodeFailed 1 7) := by decide
  refine ⟨delivered, rest, hmade, hfailed, ?_, hall.trans (by decide)⟩
  rcases hend with ⟨-, hok, -⟩ | ⟨k, status, -, hlength, herror, -⟩
  · cases hfailed.symm.trans hok
  · cases hfailed.symm.trans herror
    exact hlength

end Submission

end DecodeBench
