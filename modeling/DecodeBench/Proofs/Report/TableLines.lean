import DecodeBench.Proofs.CommandLine.Pieces
import DecodeBench.Proofs.Json.Utf8
import DecodeBench.Report

/-! Lines of the table. Whatever a column holds, it holds no comma and no line end, so the commas of a
line are those between its columns, and blanks around a column are only there to align it. -/

namespace DecodeBench

open CommandLine (pieces)
open Text (trim isBlank)

namespace Report

/-! ### Columns -/

def Clean (cs : List Char) : Prop := ∀ c ∈ cs, c ≠ ',' ∧ c ≠ '\n'

def Solid (cs : List Char) : Prop := ∀ c ∈ cs, isBlank c = false ∧ c ≠ ','

instance (cs : List Char) : Decidable (Clean cs) := List.decidableBAll (fun c => c ≠ ',' ∧ c ≠ '\n') cs

instance (cs : List Char) : Decidable (Solid cs) := List.decidableBAll (fun c => isBlank c = false ∧ c ≠ ',') cs

lemma Clean.no_comma {cs : List Char} (h : Clean cs) : ',' ∉ cs := fun hc => (h _ hc).1 rfl

lemma Clean.no_lineEnd {cs : List Char} (h : Clean cs) : '\n' ∉ cs := fun hc => (h _ hc).2 rfl

lemma Clean.append {cs ds : List Char} (hc : Clean cs) (hd : Clean ds) : Clean (cs ++ ds) :=
  List.forall_mem_append.2 ⟨hc, hd⟩

lemma Solid.append {cs ds : List Char} (hc : Solid cs) (hd : Solid ds) : Solid (cs ++ ds) :=
  List.forall_mem_append.2 ⟨hc, hd⟩

lemma Solid.clean {cs : List Char} (h : Solid cs) : Clean cs := by
  refine fun c hc => ⟨(h c hc).2, ?_⟩
  rintro rfl
  exact absurd (h _ hc).1 (by decide +kernel)

lemma Solid.trim_eq {cs : List Char} (h : Solid cs) : trim cs = cs :=
  Text.trim_of_no_blank fun c hc => (h c hc).1

lemma solid_toString (n : Nat) : Solid (toString n).toList := by
  intro c hc
  have hdigit := CommandLine.isDigit_of_mem_toString hc
  refine ⟨Text.isBlank_of_isDigit hdigit, ?_⟩
  rintro rfl
  exact absurd hdigit (by decide)

lemma clean_toString (i : Int) : Clean (toString i).toList := by
  have hsign : Clean "-".toList := by decide +kernel
  rw [Int.toString_eq_repr, Int.repr_eq_if]
  split
  case isTrue => exact (solid_toString _).clean
  case isFalse =>
    rw [String.toList_append]
    exact hsign.append (solid_toString _).clean

lemma solid_text (ds : Decimal.Digits) : Solid (Decimal.text ds).toList := by
  have hchar : ∀ d : Fin 10, isBlank (Decimal.char d) = false ∧ Decimal.char d ≠ ',' := by decide +kernel
  simp only [Solid, Decimal.text, String.toList_ofList, List.mem_map]
  rintro _ ⟨d, -, rfl⟩
  exact hchar d

lemma solid_render (places : Nat) (x : Float) : Solid (Decimal.FixedPlaces.render places x).toList := by
  rw [Decimal.FixedPlaces.render]
  split
  case h_1 negative m e _ =>
    have hsign : Solid (if negative then "-" else "").toList := by cases negative <;> decide +kernel
    have hpoint : Solid ".".toList := by decide +kernel
    simp only [Decimal.FixedPlaces.digitsText, String.toList_append]
    exact hsign.append (((solid_text _).append hpoint).append (solid_text _))
  case h_2 negative _ => cases negative <;> decide +kernel
  case h_3 => decide +kernel

lemma render_ne_empty (places : Nat) (x : Float) : (Decimal.FixedPlaces.render places x).toList ≠ [] := by
  rw [Decimal.FixedPlaces.render]
  split
  case h_1 => simp [Decimal.FixedPlaces.digitsText]
  case h_2 negative _ => cases negative <;> decide
  case h_3 => decide

lemma clean_message (r : SkipReason) : Clean r.message.toList := by
  have hbefore : Clean "decode failed (".toList := by decide +kernel
  have hafter : Clean ")".toList := by decide +kernel
  cases r with
  | budgetExceeded => decide +kernel
  | decodeFailed chunk status =>
    change Clean ("decode failed (" ++ toString status ++ ")").toList
    rw [String.toList_append, String.toList_append]
    exact (hbefore.append (clean_toString status)).append hafter

lemma toList_alignRight (width : Nat) (s : String) :
    (alignRight width s).toList = List.replicate (width - s.length) ' ' ++ s.toList := by
  have hpush (n : Nat) : ("".pushn ' ' n).toList = List.replicate n ' ' := by
    rw [String.pushn_eq_repeat_push]
    induction n with
    | zero => rfl
    | succ n ih => rw [Nat.repeat, String.toList_push, ih, List.replicate_succ']
  rw [alignRight, String.toList_append, hpush]

lemma clean_alignRight {width : Nat} {s : String} (h : Clean s.toList) : Clean (alignRight width s).toList := by
  rw [toList_alignRight]
  apply Clean.append _ h
  intro c hc
  rw [List.eq_of_mem_replicate hc]
  decide

lemma clean_alignedCounts {counts : List String} (h : ∀ s ∈ counts, Clean s.toList) :
    ∀ c ∈ alignedCounts counts, Clean c.toList := by
  intro c hc
  rw [alignedCounts, ← List.map_uncurry_zip_eq_zipWith] at hc
  obtain ⟨⟨width, s⟩, hs, rfl⟩ := List.mem_map.1 hc
  exact clean_alignRight (h s (List.of_mem_zip hs).2)

lemma trim_alignRight (width : Nat) (s : String) : trim (alignRight width s).toList = trim s.toList := by
  rw [toList_alignRight]
  apply Text.trim_append_left
  intro c hc
  rw [List.eq_of_mem_replicate hc]
  exact Text.isBlank_space

def rateColumn (x : Float) : String := alignRight rateWidth (Decimal.FixedPlaces.render ratePlaces x)

lemma clean_rateColumn (x : Float) : Clean (rateColumn x).toList := clean_alignRight (solid_render _ x).clean

lemma trim_rateColumn (x : Float) : trim (rateColumn x).toList = (Decimal.FixedPlaces.render ratePlaces x).toList := by
  rw [rateColumn, trim_alignRight, (solid_render _ x).trim_eq]

/-! ### Lines -/

def columnsText (columns : List String) : List Char := columns.flatMap fun c => c.toList ++ [' ', ',', ' ']

lemma toList_joinColumns_concat (columns : List String) (last : String) :
    (joinColumns (columns ++ [last])).toList = columnsText columns ++ last.toList := by
  rw [joinColumns, String.toList_intercalate]
  induction columns with
  | nil => simp [columnsText]
  | cons c columns ih =>
    obtain ⟨d, ds, hcons⟩ := List.exists_cons_of_ne_nil (List.concat_ne_nil last columns)
    simp_all [columnsText, columnSeparator]

lemma no_lineEnd_columnsText {columns : List String} (h : ∀ c ∈ columns, Clean c.toList) :
    '\n' ∉ columnsText columns := by
  simp only [columnsText, List.mem_flatMap, List.mem_append, not_exists, not_and, not_or]
  exact fun c hc => ⟨(h c hc).no_lineEnd, by decide⟩

lemma map_trim_pieces_columnsText {columns : List String} (h : ∀ c ∈ columns, Clean c.toList) (rest : List Char) :
    (pieces (columnsText columns ++ rest)).map trim = columns.map (trim ·.toList) ++ (pieces rest).map trim := by
  induction columns with
  | nil => rfl
  | cons c columns ih =>
    have hcomma : ',' ∉ c.toList ++ [' '] := by simpa using (h c (List.mem_cons_self ..)).no_comma
    have htrim : trim (c.toList ++ [' ']) = trim c.toList := Text.trim_append_right (by simp [Text.isBlank_space])
    have hsplit : columnsText (c :: columns) ++ rest =
        (c.toList ++ [' ']) ++ ',' :: ' ' :: (columnsText columns ++ rest) := by
      simp [columnsText]
    rw [hsplit, CommandLine.pieces_append_comma hcomma, List.map_cons, htrim,
      CommandLine.map_trim_pieces_cons_blank Text.isBlank_space (by decide),
      ih fun d hd => h d (List.mem_cons_of_mem _ hd)]
    rfl

def counts (r : Record) : List Nat := [r.point.promptLength, r.point.genLength, r.point.parallelism, r.requiredSlots]

def leadingColumns : Record → List String
  | .trial m => pointColumns m.point m.requiredSlots ++ [rateColumn m.prefillRate, rateColumn m.decodeRate]
  | .skipped s => pointColumns s.point s.requiredSlots ++ [s.reason.message]

def lineRest : Record → List Char
  | .trial m => (rateColumn m.combinedRate).toList
  | .skipped _ => [',', ' ']

lemma toList_tableLine (r : Record) : (tableLine r).toList = columnsText (leadingColumns r) ++ lineRest r := by
  cases r with
  | trial m =>
    exact toList_joinColumns_concat (pointColumns _ _ ++ [rateColumn m.prefillRate, rateColumn m.decodeRate]) _
  | skipped s =>
    rw [tableLine, String.toList_append, toList_joinColumns_concat]
    simp [columnsText, leadingColumns, lineRest, emptyRates]

lemma clean_leadingColumns (r : Record) : ∀ c ∈ leadingColumns r, Clean c.toList := by
  have hpoint (p : GridPoint) (slots : Nat) : ∀ c ∈ pointColumns p slots, Clean c.toList := by
    apply clean_alignedCounts
    intro s hs
    obtain ⟨n, -, rfl⟩ := List.mem_map.1 hs
    exact (solid_toString n).clean
  cases r with
  | trial m =>
    rw [leadingColumns, List.forall_mem_append]
    exact ⟨hpoint _ _, by simp [clean_rateColumn]⟩
  | skipped s =>
    rw [leadingColumns, List.forall_mem_append]
    exact ⟨hpoint _ _, by simp [clean_message]⟩

lemma trim_pointColumns (r : Record) :
    (pointColumns r.point r.requiredSlots).map (trim ·.toList) = (counts r).map fun n => (toString n).toList := by
  have hcount (width n : Nat) : trim (alignRight width (toString n)).toList = (toString n).toList := by
    rw [trim_alignRight, (solid_toString n).trim_eq]
  simp only [pointColumns, alignedCounts, countWidths, counts, List.map_cons, List.map_nil, List.zipWith_cons_cons,
    List.zipWith_nil_left, hcount]

def trimmedRates : Record → List (List Char)
  | .trial m =>
    [m.prefillRate, m.decodeRate, m.combinedRate].map fun x => (Decimal.FixedPlaces.render ratePlaces x).toList
  | .skipped s => [trim s.reason.message.toList, [], []]

lemma map_trim_pieces_tableLine (r : Record) : (pieces (tableLine r).toList).map trim =
    (counts r).map (fun n => (toString n).toList) ++ trimmedRates r := by
  have hlast (x : Float) : pieces (rateColumn x).toList = [(rateColumn x).toList] :=
    CommandLine.pieces_of_no_comma (clean_rateColumn x).no_comma
  have hblank : trim [' '] = [] := by decide +kernel
  have hend : pieces [',', ' '] = [[], [' ']] := by decide
  have hnone : trim [] = [] := rfl
  rw [toList_tableLine, map_trim_pieces_columnsText (clean_leadingColumns r), ← trim_pointColumns]
  cases r with
  | trial m => simp [leadingColumns, lineRest, trimmedRates, trim_rateColumn, hlast, Record.point, Record.requiredSlots]
  | skipped s => simp [leadingColumns, lineRest, trimmedRates, hend, hblank, hnone, Record.point, Record.requiredSlots]

/-! ### Fields -/

def fields? (line : List UInt8) : Option (List (List Char)) :=
  (String.fromUTF8? ⟨line.toArray⟩).map fun text => pieces text.toList

structure Row (line : List UInt8) (fields : List (List Char)) : Prop where
  framed : lineEnd ∉ line
  commas : line.count 0x2c = 6
  cut : fields? line = some fields
  seven : fields.length = 7

lemma Row.of_columns {s : String} {columns : List String} {rest : List Char}
    (hs : s.toList = columnsText columns ++ rest) (hcolumns : ∀ c ∈ columns, Clean c.toList) (hrest : '\n' ∉ rest)
    (hcount : columns.length + (pieces rest).length = 7) : Row (Json.utf8 s) (pieces s.toList) := by
  have hend : '\n' ∉ s.toList := by
    rw [hs, List.mem_append, not_or]
    exact ⟨no_lineEnd_columnsText hcolumns, hrest⟩
  have hseven : (pieces s.toList).length = 7 := by
    have htrimmed := congrArg List.length (map_trim_pieces_columnsText hcolumns rest)
    simpa [hs, hcount] using htrimmed
  have hcommas : s.toList.count ',' = 6 := by
    rw [CommandLine.length_pieces] at hseven
    exact Nat.succ.inj hseven
  constructor
  · rw [← List.count_eq_zero]
    exact (Json.count_utf8 s (by decide)).trans (List.count_eq_zero.2 hend)
  · exact (Json.count_utf8 s (by decide)).trans hcommas
  · rw [fields?, Json.fromUTF8?_utf8]
    rfl
  · exact hseven

def headerColumns : List String :=
  alignedCounts ["PP", "TG", "B", "N_KV"] ++ ["S_PP(t/s)", "S_TG(t/s)"].map (alignRight rateWidth)

lemma header_row : Row (Json.utf8 header) (pieces header.toList) := by
  have hlast : Clean (alignRight rateWidth "S(t/s)").toList := clean_alignRight (by decide +kernel)
  have hcounts : ∀ s ∈ ["PP", "TG", "B", "N_KV"], Clean s.toList := by decide +kernel
  have hrates : ∀ s ∈ ["S_PP(t/s)", "S_TG(t/s)"], Clean s.toList := by decide +kernel
  refine .of_columns (toList_joinColumns_concat headerColumns _) ?_ hlast.no_lineEnd ?_
  · rw [headerColumns, List.forall_mem_append, List.forall_mem_map]
    exact ⟨clean_alignedCounts hcounts, fun s hs => clean_alignRight (hrates s hs)⟩
  · rw [CommandLine.pieces_of_no_comma hlast.no_comma]
    rfl

lemma tableLine_row (r : Record) : Row (Json.utf8 (tableLine r)) (pieces (tableLine r).toList) := by
  have hcolumns := clean_leadingColumns r
  cases r with
  | trial m =>
    have hlast := clean_rateColumn m.combinedRate
    refine .of_columns (toList_tableLine _) hcolumns hlast.no_lineEnd ?_
    rw [lineRest, CommandLine.pieces_of_no_comma hlast.no_comma]
    rfl
  | skipped s =>
    exact .of_columns (toList_tableLine _) hcolumns (by decide : '\n' ∉ [',', ' ']) rfl

structure RecordFields (r : Record) (fields : List (List Char)) : Prop where
  counts : (fields.take 4).mapM CommandLine.parsePiece = .ok (counts r)
  blank_iff : ∀ f ∈ fields.drop 5, trim f = [] ↔ r.isTrial = false

lemma tableLine_fields {r : Record} (h : ∀ n ∈ counts r, n < CommandLine.wordLimit) :
    RecordFields r (pieces (tableLine r).toList) where
  counts := by
    apply CommandLine.mapM_parsePiece _ h
    rw [List.map_take, map_trim_pieces_tableLine]
    exact List.take_left' rfl
  blank_iff f hf := by
    have htrim : trim f ∈ (trimmedRates r).drop 1 := by
      have hmem := List.mem_map_of_mem (f := trim) hf
      rwa [List.map_drop, map_trim_pieces_tableLine] at hmem
    cases r with
    | trial m =>
      have hrate (x : Float) (heq : trim f = (Decimal.FixedPlaces.render ratePlaces x).toList) : trim f ≠ [] :=
        heq ▸ render_ne_empty _ _
      simp only [trimmedRates, List.map_cons, List.map_nil, List.drop_succ_cons, List.drop_zero, List.mem_cons,
        List.not_mem_nil, or_false] at htrim
      simp only [Record.isTrial, Bool.true_eq_false, iff_false]
      exact htrim.elim (hrate _) (hrate _)
    | skipped s => simpa [trimmedRates, Record.isTrial] using htrim

end Report

end DecodeBench
