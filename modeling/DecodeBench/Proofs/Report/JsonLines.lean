import DecodeBench.Proofs.Json.Reading
import DecodeBench.Report

/-! Lines of JSON. Each is one object, and what it says in words and integers is read back by the names
of its members. -/

namespace DecodeBench

open Json (Plain Value utf8)

namespace Report

/-! ### A reader of records -/

inductive Content where
  | trial (point : GridPoint) (repeatIndex requiredSlots : Nat)
  | skipped (s : SkippedPoint)
  deriving DecidableEq, Repr

def content : Record → Content
  | .trial m => .trial m.point m.repeatIndex m.requiredSlots
  | .skipped s => .skipped s

def readPoint? (v : Value) : Option GridPoint := do
  let promptLength ← (← v.member? "prompt_len").natural?
  let genLength ← (← v.member? "gen_len").natural?
  let parallelism ← (← v.member? "parallelism").natural?
  return { promptLength, genLength, parallelism }

def readReason? (v : Value) : Option SkipReason := do
  let kind ← (← v.member? "kind").word?
  if kind = "cache_budget_exceeded" then return .budgetExceeded
  else if kind = "decode_failed" then
    return .decodeFailed (← (← v.member? "chunk_index").natural?) (← (← v.member? "status").integer?)
  else none

def readContent? (v : Value) : Option Content := do
  let tag ← (← v.member? "record").word?
  let point ← readPoint? (← v.member? "grid_point")
  let requiredSlots ← (← v.member? "required_slots").natural?
  if tag = "trial" then return .trial point (← (← v.member? "repeat_index").natural?) requiredSlots
  else if tag = "skipped" then
    return .skipped { point, requiredSlots, reason := ← readReason? (← v.member? "reason") }
  else none

/-! ### Reading what is written -/

def PointFits (p : GridPoint) : Prop :=
  p.promptLength < Nat.pow 2 64 ∧ p.genLength < Nat.pow 2 64 ∧ p.parallelism < Nat.pow 2 64

def ReasonFits : SkipReason → Prop
  | .budgetExceeded => True
  | .decodeFailed chunk status =>
    chunk < Nat.pow 2 64 ∧ -(Nat.pow 2 31 : Nat) ≤ status ∧ status < (Nat.pow 2 31 : Nat)

def Fits : Record → Prop
  | .trial m => PointFits m.point ∧ m.repeatIndex < Nat.pow 2 64 ∧ m.requiredSlots < Nat.pow 2 64
  | .skipped s => PointFits s.point ∧ s.requiredSlots < Nat.pow 2 64 ∧ ReasonFits s.reason

lemma readPoint?_pointJson {p : GridPoint} (h : PointFits p) : readPoint? (pointJson p) = some p := by
  obtain ⟨hprompt, hgen, hparallel⟩ := h
  simp [readPoint?, pointJson, Value.member?_record, Value.only?, Value.natural?_natural hprompt,
    Value.natural?_natural hgen, Value.natural?_natural hparallel]

lemma readReason?_reasonJson {r : SkipReason} (h : ReasonFits r) : readReason? (reasonJson r) = some r := by
  cases r with
  | budgetExceeded =>
    have hkind : Plain (utf8 "cache_budget_exceeded") := by decide +kernel
    simp [readReason?, reasonJson, Value.member?_record, Value.only?, Value.word?_word hkind]
  | decodeFailed chunk status =>
    have hkind : Plain (utf8 "decode_failed") := by decide +kernel
    obtain ⟨hchunk, hlow, hhigh⟩ := h
    have hwide : (Nat.pow 2 31 : Int) ≤ (Nat.pow 2 63 : Nat) := by decide
    have hstatus : (Value.integer status).integer? = some status := Value.integer?_integer (by omega) (by omega)
    simp [readReason?, reasonJson, Value.member?_record, Value.only?, Value.word?_word hkind,
      Value.natural?_natural hchunk, hstatus]

lemma readContent?_recordJson {r : Record} (h : Fits r) : readContent? (recordJson r) = some (content r) := by
  cases r with
  | trial m =>
    have htag : Plain (utf8 "trial") := by decide +kernel
    obtain ⟨hpoint, hrepeat, hslots⟩ := h
    simp [readContent?, recordJson, content, Value.member?_record, Value.only?, Value.word?_word htag,
      readPoint?_pointJson hpoint, Value.natural?_natural hrepeat, Value.natural?_natural hslots]
  | skipped s =>
    have htag : Plain (utf8 "skipped") := by decide +kernel
    obtain ⟨hpoint, hslots, hreason⟩ := h
    simp [readContent?, recordJson, content, Value.member?_record, Value.only?, Value.word?_word htag,
      readPoint?_pointJson hpoint, Value.natural?_natural hslots, readReason?_reasonJson hreason]

lemma wellFormed_pointJson (p : GridPoint) : (pointJson p).WellFormed := by
  apply Value.wellFormed_record
  · simp only [List.map_cons, List.map_nil]
    decide +kernel
  · simp [Value.wellFormed_natural]

lemma wellFormed_reasonJson (r : SkipReason) : (reasonJson r).WellFormed := by
  cases r with
  | budgetExceeded =>
    have hkind : Plain (utf8 "cache_budget_exceeded") := by decide +kernel
    apply Value.wellFormed_record
    · decide +kernel
    · simp [Value.wellFormed_word hkind]
  | decodeFailed chunk status =>
    have hkind : Plain (utf8 "decode_failed") := by decide +kernel
    apply Value.wellFormed_record
    · simp only [List.map_cons, List.map_nil]
      decide +kernel
    · simp [Value.wellFormed_word hkind, Value.wellFormed_natural, Value.wellFormed_integer]

lemma wellFormed_recordJson (r : Record) : (recordJson r).WellFormed := by
  cases r with
  | trial m =>
    have htag : Plain (utf8 "trial") := by decide +kernel
    apply Value.wellFormed_record
    · simp only [List.map_cons, List.map_nil]
      decide +kernel
    · simp [Value.wellFormed_word htag, wellFormed_pointJson, Value.wellFormed_natural, Value.wellFormed_float]
  | skipped s =>
    have htag : Plain (utf8 "skipped") := by decide +kernel
    apply Value.wellFormed_record
    · simp only [List.map_cons, List.map_nil]
      decide +kernel
    · simp [Value.wellFormed_word htag, wellFormed_pointJson, Value.wellFormed_natural, wellFormed_reasonJson]

structure ObjectLine (r : Record) (line : List UInt8) : Prop where
  framed : lineEnd ∉ line
  object : ∃ members, Value.parse? line = some (.object members)
  content : (Value.parse? line).bind readContent? = some (content r)

lemma recordJson_line {r : Record} (h : Fits r) : ObjectLine r (recordJson r).bytes := by
  have hparse := Value.parse?_bytes (wellFormed_recordJson r)
  refine ⟨fun hend => ?_, ?_, ?_⟩
  · exact absurd (Value.printable (wellFormed_recordJson r) _ hend) (by decide)
  · rw [hparse]
    cases r <;> exact ⟨_, rfl⟩
  · rw [hparse]
    exact readContent?_recordJson h

end Report

end DecodeBench
