import DecodeBench.Proofs.Report.JsonLines
import DecodeBench.Proofs.Report.Sink
import DecodeBench.Proofs.Report.TableLines

/-! What can be read back from a report: its lines, and of each line the record that it is about. -/

namespace DecodeBench.Report

def lineBytes : OutputFormat → Record → List UInt8
  | .table, r => Json.utf8 (tableLine r)
  | .json, r => (recordJson r).bytes

lemma recordBytes_eq (format : OutputFormat) (r : Record) : recordBytes format r = lineBytes format r ++ [lineEnd] := by
  cases format <;> rfl

lemma counts_lt_of_fits {r : Record} (h : Fits r) : ∀ n ∈ counts r, n < CommandLine.wordLimit := by
  simp only [counts, List.mem_cons, List.not_mem_nil, or_false, forall_eq_or_imp, forall_eq]
  cases r with
  | trial m => exact ⟨h.1.1, h.1.2.1, h.1.2.2, h.2.2⟩
  | skipped s => exact ⟨h.1.1, h.1.2.1, h.1.2.2, h.2.1⟩

def ReadsBack : OutputFormat → Record → List UInt8 → Prop
  | .table, r, line => ∃ fields, Row line fields ∧ RecordFields r fields
  | .json, r, line => ObjectLine r line

lemma lineBytes_readsBack {format : OutputFormat} {r : Record} (h : Fits r) :
    ReadsBack format r (lineBytes format r) := by
  cases format with
  | table => exact ⟨_, tableLine_row r, tableLine_fields (counts_lt_of_fits h)⟩
  | json => exact recordJson_line h

lemma ReadsBack.framed {format : OutputFormat} {r : Record} {line : List UInt8} (h : ReadsBack format r line) :
    lineEnd ∉ line := by
  cases format with
  | table =>
    obtain ⟨fields, hrow, -⟩ := h
    exact hrow.framed
  | json => exact ObjectLine.framed h

lemma splitOn_lines {lines : List (List UInt8)} (h : ∀ line ∈ lines, lineEnd ∉ line) :
    (lines.flatMap fun line => line ++ [lineEnd]).splitOn lineEnd = lines ++ [[]] := by
  have hjoined : (lines.flatMap fun line => line ++ [lineEnd]) = [lineEnd].intercalate (lines ++ [[]]) := by
    induction lines with
    | nil => rfl
    | cons line lines ih =>
      rw [List.flatMap_cons, ih fun l hl => h l (List.mem_cons_of_mem _ hl), List.cons_append,
        List.intercalate_cons_of_ne_nil (List.append_ne_nil_of_right_ne_nil _ (List.cons_ne_nil _ _))]
  have hwhole : ∀ line ∈ lines ++ [[]], lineEnd ∉ line := by
    simpa [or_imp, forall_and] using h
  rw [hjoined, List.splitOn_intercalate lineEnd hwhole (by simp)]

theorem lines_read_back (format : OutputFormat) (records : List Record) (hfits : ∀ r ∈ records, Fits r) (s : Sink)
    (hs : s.limit = none) :
    let lines := records.map (lineBytes format)
    let text := lines.flatMap fun line => line ++ [lineEnd]
    ((s.writeAll (records.map (recordBytes format))).2.written.toList = s.written.toList ++ text ∧
      (writeReport format records s).2.written.toList = s.written.toList ++ headerBytes format ++ text) ∧
    (headerBytes .json = [] ∧
      ∃ header fields, headerBytes .table = header ++ [lineEnd] ∧ Row header fields) ∧
    text.splitOn lineEnd = lines ++ [[]] ∧
    (∀ r ∈ records, ReadsBack format r (lineBytes format r)) ∧
    (format = .json → ∀ p q, .skipped p ∈ records → .skipped q ∈ records →
      lineBytes format (.skipped p) = lineBytes format (.skipped q) → p = q) := by
  intro lines text
  have hbytes : (records.map (recordBytes format)).flatten = text := by
    simp only [text, lines, List.flatMap, List.map_map]
    exact congrArg List.flatten (List.map_congr_left fun r _ => recordBytes_eq format r)
  have hreads : ∀ r ∈ records, ReadsBack format r (lineBytes format r) := fun r hr => lineBytes_readsBack (hfits r hr)
  refine ⟨⟨?_, ?_⟩, ⟨rfl, _, _, rfl, header_row⟩, splitOn_lines ?_, hreads, ?_⟩
  · rw [Sink.writeAll_unlimited hs, hbytes]
  · rw [writeReport, Sink.writeAll_unlimited hs, List.flatten_cons, hbytes, List.append_assoc]
  · exact List.forall_mem_map.2 fun r hr => (hreads r hr).framed
  · rintro rfl p q hp hq heq
    have hcontent := (hreads _ hp : ObjectLine _ _).content
    rw [heq, (hreads _ hq : ObjectLine _ _).content] at hcontent
    cases hcontent
    rfl

theorem extreme_records_read_back :
    let largest := Nat.pow 2 64 - 1
    let trial : Record := .trial ⟨⟨0, largest, 1⟩, 3, largest, -0.0, 1 / 0, 0 / 0, -1 / 0, 1e300⟩
    let skip : Record := .skipped ⟨⟨1, 2, 3⟩, 4, .decodeFailed largest (-2147483648)⟩
    (∀ r ∈ [trial, skip], Fits r) ∧
    (∃ fields, fields? (lineBytes .table trial) = some fields ∧
      (fields.take 4).mapM CommandLine.parsePiece = .ok [0, largest, 1, largest]) ∧
    (∃ members, Json.Value.parse? (lineBytes .json skip) = some (.object members)) := by
  intro largest trial skip
  have hlargest : largest < Nat.pow 2 64 := by decide
  have hfits : ∀ r ∈ [trial, skip], Fits r := by
    simp only [List.mem_cons, List.not_mem_nil, or_false, forall_eq_or_imp, forall_eq]
    exact ⟨⟨⟨by decide, hlargest, by decide⟩, by decide, hlargest⟩, ⟨by decide, by decide, by decide⟩, by decide,
      hlargest, by decide, by decide⟩
  obtain ⟨-, -, -, htable, -⟩ := lines_read_back .table [trial, skip] hfits {} rfl
  obtain ⟨-, -, -, hjson, -⟩ := lines_read_back .json [trial, skip] hfits {} rfl
  obtain ⟨fields, hrow, hfields⟩ := htable trial (by simp)
  exact ⟨hfits, ⟨fields, hrow.cut, hfields.counts⟩, (hjson skip (by simp) : ObjectLine _ _).object⟩

end DecodeBench.Report
