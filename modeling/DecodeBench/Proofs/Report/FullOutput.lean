import DecodeBench.Proofs.Report.Sink
import Mathlib.Data.List.Infix
import Mathlib.Order.Lattice

/-! A report on an output that fills up while it is written. A line goes out in pieces, each piece in
as many writes as it takes, and a piece that finds no room ends the line; what is left in the output
does not depend on where lines and pieces are cut. -/

namespace DecodeBench.Report

inductive WriteFault where
  | writeZero
  deriving DecidableEq, Repr

def answer (complete : Bool) : Except WriteFault Unit := if complete then .ok () else .error .writeZero

namespace Sink

def takeSome (s : Sink) (bytes : List UInt8) : Nat × Sink :=
  let taken := min (s.room bytes) bytes.length
  (taken, { s with written := s.written ++ (bytes.take taken).toArray })

def putPiece (s : Sink) : List UInt8 → Except WriteFault Unit × Sink
  | [] => (.ok (), s)
  | b :: bs =>
    match s.takeSome (b :: bs) with
    | (0, s) => (.error .writeZero, s)
    | (taken + 1, s) => s.putPiece (bs.drop taken)
termination_by bytes => bytes.length
decreasing_by
  rw [List.length_drop, List.length_cons]
  omega

def putPieces (s : Sink) : List (List UInt8) → Except WriteFault Unit × Sink
  | [] => (.ok (), s)
  | piece :: pieces =>
    match s.putPiece piece with
    | (.ok (), s) => s.putPieces pieces
    | (.error fault, s) => (.error fault, s)

def putLines (s : Sink) : List (List (List UInt8)) → List (Except WriteFault Unit) × Sink
  | [] => ([], s)
  | line :: lines =>
    let (first, s) := s.putPieces line
    let (rest, s) := s.putLines lines
    (first :: rest, s)

variable {s : Sink}

lemma write_take_room (bytes : List UInt8) :
    s.write (bytes.take (min (s.room bytes) bytes.length)) = (true, (s.takeSome bytes).2) := by
  cases hl : s.limit <;> simp [write, takeSome, room, hl, List.take_take]

lemma putPiece_eq_write (bytes : List UInt8) : s.putPiece bytes = (answer (s.write bytes).1, (s.write bytes).2) := by
  fun_induction putPiece s bytes with
  | case1 => simp [answer]
  | case2 s b bs s' htake =>
    have hnone : min (s.room (b :: bs)) (b :: bs).length = 0 := congrArg Prod.fst htake
    have hroom : s.room (b :: bs) = 0 := by simpa using hnone
    have hs : (s.takeSome (b :: bs)).2 = s' := congrArg Prod.snd htake
    simp [← hs, takeSome, write, hroom, answer]
  | case3 s b bs taken s' htake ih =>
    have hsome : min (s.room (b :: bs)) (b :: bs).length = taken + 1 := congrArg Prod.fst htake
    have hfirst := write_take_room (s := s) (b :: bs)
    rw [hsome, htake] at hfirst
    rw [ih, ← List.take_append_drop (taken + 1) (b :: bs), write_append, hfirst]
    simp

/-- A piece that is cut short leaves no room for the pieces after it, so giving up on them loses nothing. -/
lemma putPieces_eq_write (pieces : List (List UInt8)) :
    s.putPieces pieces = (answer (s.write pieces.flatten).1, (s.write pieces.flatten).2) := by
  induction pieces generalizing s with
  | nil => simp [putPieces, answer]
  | cons piece pieces ih =>
    rw [putPieces, putPiece_eq_write, List.flatten_cons, write_append]
    cases hfirst : (s.write piece).1 with
    | true => simp [answer, ih]
    | false => simp [answer, write_after_loss hfirst]

lemma putLines_eq_writeAll (lines : List (List (List UInt8))) : s.putLines lines =
    ((s.writeAll (lines.map List.flatten)).1.map answer, (s.writeAll (lines.map List.flatten)).2) := by
  induction lines generalizing s with
  | nil => rfl
  | cons line lines ih => simp [putLines, putPieces_eq_write, ih, writeAll_cons]

end Sink

/-! ### Reports -/

def reportLines (format : OutputFormat) (records : List Record) : List (List UInt8) :=
  headerBytes format :: records.map (recordBytes format)

def recordPieces : OutputFormat → Record → List (List UInt8)
  | .table, r => [Json.utf8 (tableLine r), [lineEnd]]
  | .json, r => (recordJson r).tokens.map Json.Token.bytes ++ [[lineEnd]]

lemma flatten_recordPieces (format : OutputFormat) (r : Record) :
    (recordPieces format r).flatten = recordBytes format r := by
  cases format <;> simp [recordPieces, recordBytes, Json.Value.bytes, List.flatMap]

lemma getLast?_recordBytes (format : OutputFormat) (r : Record) : (recordBytes format r).getLast? = some lineEnd := by
  cases format <;> simp [recordBytes]

lemma recordBytes_ne_nil (format : OutputFormat) (r : Record) : recordBytes format r ≠ [] := by
  cases format <;> simp [recordBytes]

structure CutOff (lines : List (List UInt8)) (limit : Nat) (answers : List (Except WriteFault Unit))
    (kept : List UInt8) : Prop where
  kept_eq : kept = lines.flatten.take limit
  size : kept.length = min limit lines.flatten.length
  answered : answers.length = lines.length
  answer_of : ∀ i < lines.length, answers[i]? =
    some (if (lines.take (i + 1)).flatten.length ≤ limit then .ok () else .error .writeZero)
  lost_after : ∀ i j, answers[i]? = some (.error .writeZero) → i ≤ j → j < lines.length →
    answers[j]? = some (.error .writeZero)
  ends_before : ∀ i, answers[i]? = some (.error .writeZero) →
    kept <+: (lines.take (i + 1)).flatten ∧ kept.length < (lines.take (i + 1)).flatten.length
  complete : ∀ i line, lines[i]? = some line → answers[i]? = some (.ok ()) → (lines.take i).flatten ++ line <+: kept

section CutOff

variable {lines : List (List UInt8)} {limit : Nat} {answers : List (Except WriteFault Unit)} {kept : List UInt8}

lemma flatten_take_isPrefix (lines : List (List UInt8)) {i j : Nat} (h : i ≤ j) :
    (lines.take i).flatten <+: (lines.take j).flatten :=
  (List.take_prefix_take_left h).flatten

lemma answer_iff (hlength : answers.length = lines.length) (hanswers : ∀ i < lines.length, answers[i]? =
    some (if (lines.take (i + 1)).flatten.length ≤ limit then .ok () else .error .writeZero)) (i : Nat) :
    (answers[i]? = some (.ok ()) ↔ i < lines.length ∧ (lines.take (i + 1)).flatten.length ≤ limit) ∧
    (answers[i]? = some (.error .writeZero) ↔ i < lines.length ∧ limit < (lines.take (i + 1)).flatten.length) := by
  rcases Nat.lt_or_ge i lines.length with hlt | hge
  · rw [hanswers i hlt]
    split <;> simp_all
  · rw [List.getElem?_eq_none (hlength.trans_le hge)]
    simp [Nat.not_lt.2 hge]

lemma CutOff.of_answers (hkept : kept = lines.flatten.take limit) (hlength : answers.length = lines.length)
    (hanswers : ∀ i < lines.length, answers[i]? =
      some (if (lines.take (i + 1)).flatten.length ≤ limit then .ok () else .error .writeZero)) :
    CutOff lines limit answers kept where
  kept_eq := hkept
  size := by simp [hkept]
  answered := hlength
  answer_of := hanswers
  lost_after i j herror hij hj := by
    obtain ⟨-, hlost⟩ := (answer_iff hlength hanswers i).2.1 herror
    have hmore := (flatten_take_isPrefix lines (Nat.succ_le_succ hij)).length_le
    exact (answer_iff hlength hanswers j).2.2 ⟨hj, hlost.trans_le hmore⟩
  ends_before i herror := by
    obtain ⟨-, hlost⟩ := (answer_iff hlength hanswers i).2.1 herror
    have hshort : kept.length < (lines.take (i + 1)).flatten.length := by
      rw [hkept]
      exact (List.length_take_le _ _).trans_lt hlost
    have hall : (lines.take (i + 1)).flatten <+: lines.flatten := (List.take_prefix _ _).flatten
    exact ⟨List.prefix_of_prefix_length_le (hkept ▸ List.take_prefix _ _) hall (Nat.le_of_lt hshort), hshort⟩
  complete i line hline hok := by
    obtain ⟨-, hfits⟩ := (answer_iff hlength hanswers i).1.1 hok
    have hlines : (lines.take (i + 1)).flatten = (lines.take i).flatten ++ line := by
      rw [List.take_add_one, hline, List.flatten_append]
      simp
    rw [← hlines, hkept]
    exact List.prefix_take_iff.2 ⟨(List.take_prefix _ _).flatten, hfits⟩

end CutOff

theorem full_output_keeps_a_prefix (format : OutputFormat) (records : List Record) (limit : Nat)
    (cutting : List (List (List UInt8))) (hcut : cutting.map List.flatten = reportLines format records) :
    let complete := (({} : Sink).putLines cutting).2.written.toList
    let (answers, left) := ({ limit := some limit } : Sink).putLines cutting
    complete = (reportLines format records).flatten ∧
    CutOff (reportLines format records) limit answers left.written.toList ∧
    (∀ r ∈ records, (recordBytes format r).getLast? = some lineEnd) ∧
    writeReport format records { limit := some limit } = (answers.map Except.isOk, left) := by
  have hnonempty : ∀ line ∈ (reportLines format records).tail, line ≠ [] := by
    simp only [reportLines, List.tail_cons, List.mem_map]
    rintro _ ⟨r, -, rfl⟩
    exact recordBytes_ne_nil format r
  simp only [Sink.putLines_eq_writeAll, hcut]
  refine ⟨by simpa using Sink.writeAll_unlimited (s := {}) rfl (reportLines format records), .of_answers ?_ ?_ ?_,
    fun r _ => getLast?_recordBytes format r, ?_⟩
  · simpa using Sink.writeAll_limited (s := { limit := some limit }) rfl (Nat.zero_le _) (reportLines format records)
  · simp [Sink.length_writeAll]
  · intro i hi
    rw [List.getElem?_map, Sink.answer_writeAll_limited rfl (Nat.zero_le _) hnonempty hi]
    simp [answer]
  · have hback : Except.isOk ∘ answer = id := by
      funext complete
      cases complete <;> rfl
    simp [writeReport, reportLines, hback]

theorem object_kept_without_its_line_end :
    let r : Record := .skipped ⟨⟨1, 2, 3⟩, 4, .decodeFailed 0 1⟩
    let limit := (recordJson r).bytes.length
    let cutting := [[], recordPieces .json r]
    let (answers, left) := ({ limit := some limit } : Sink).putLines cutting
    cutting.map List.flatten = reportLines .json [r] ∧
    answers = [.ok (), .error .writeZero] ∧ left.written.toList = (recordJson r).bytes := by
  intro r limit cutting
  have hcut : cutting.map List.flatten = reportLines .json [r] := by
    simp [cutting, flatten_recordPieces, reportLines, headerBytes]
  have hlines : (reportLines .json [r]).flatten = (recordJson r).bytes ++ [lineEnd] := by
    simp [reportLines, headerBytes, recordBytes]
  obtain ⟨-, hkeeps, -, -⟩ := full_output_keeps_a_prefix .json [r] limit cutting hcut
  refine ⟨hcut, List.ext_getElem? fun i => ?_, ?_⟩
  · match i with
    | 0 => exact hkeeps.answer_of 0 (by simp [reportLines])
    | 1 =>
      have hlost := hkeeps.answer_of 1 (by simp [reportLines])
      rwa [List.take_of_length_le (by simp [reportLines]), hlines, if_neg (by simp [limit])] at hlost
    | i + 2 => exact List.getElem?_eq_none (by rw [hkeeps.answered]; simp [reportLines])
  · rw [hkeeps.kept_eq, hlines]
    exact List.take_left

end DecodeBench.Report
