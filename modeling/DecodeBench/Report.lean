import DecodeBench.Decimal.FixedPlaces
import DecodeBench.Json.Value
import DecodeBench.Record

/-! Records as lines of text, either aligned between commas or as one JSON object each. -/

namespace DecodeBench

inductive OutputFormat where
  | table
  | json
  deriving DecidableEq, Repr, Inhabited

namespace Report

def alignRight (width : Nat) (s : String) : String := "".pushn ' ' (width - s.length) ++ s

def countWidths : List Nat := [6, 6, 4, 6]

def rateWidth : Nat := 8

def ratePlaces : Nat := 3

def columnSeparator : String := " , "

def joinColumns (columns : List String) : String := columnSeparator.intercalate columns

def alignedCounts (counts : List String) : List String := countWidths.zipWith alignRight counts

def header : String :=
  joinColumns (alignedCounts ["PP", "TG", "B", "N_KV"] ++
    ["S_PP(t/s)", "S_TG(t/s)", "S(t/s)"].map (alignRight rateWidth))

def pointColumns (p : GridPoint) (slots : Nat) : List String :=
  alignedCounts ([p.promptLength, p.genLength, p.parallelism, slots].map toString)

def emptyRates : String := " , , "

def tableLine : Record → String
  | .trial m => joinColumns (pointColumns m.point m.requiredSlots ++
      [m.prefillRate, m.decodeRate, m.combinedRate].map fun x =>
        alignRight rateWidth (Decimal.FixedPlaces.render ratePlaces x))
  | .skipped s => joinColumns (pointColumns s.point s.requiredSlots ++ [s.reason.message]) ++ emptyRates

open Json (Value)

def pointJson (p : GridPoint) : Value :=
  .record [
    ("prompt_len", .natural p.promptLength),
    ("gen_len", .natural p.genLength),
    ("parallelism", .natural p.parallelism)]

def reasonJson : SkipReason → Value
  | .budgetExceeded => .record [("kind", .word "cache_budget_exceeded")]
  | .decodeFailed chunk status =>
    .record [("kind", .word "decode_failed"), ("chunk_index", .natural chunk), ("status", .integer status)]

def recordJson : Record → Value
  | .trial m => .record [
      ("record", .word "trial"),
      ("grid_point", pointJson m.point),
      ("repeat_index", .natural m.repeatIndex),
      ("required_slots", .natural m.requiredSlots),
      ("prefill_seconds", .float m.prefillSeconds),
      ("decode_seconds", .float m.decodeSeconds),
      ("prefill_tokens_per_sec", .float m.prefillRate),
      ("decode_tokens_per_sec", .float m.decodeRate),
      ("combined_tokens_per_sec", .float m.combinedRate)]
  | .skipped s => .record [
      ("record", .word "skipped"),
      ("grid_point", pointJson s.point),
      ("required_slots", .natural s.requiredSlots),
      ("reason", reasonJson s.reason)]

def lineEnd : UInt8 := 0x0a

def headerBytes : OutputFormat → List UInt8
  | .table => Json.utf8 header ++ [lineEnd]
  | .json => []

def recordBytes : OutputFormat → Record → List UInt8
  | .table, r => Json.utf8 (tableLine r) ++ [lineEnd]
  | .json, r => (recordJson r).bytes ++ [lineEnd]

structure Sink where
  limit : Option Nat := none
  written : Array UInt8 := #[]
  deriving Inhabited

namespace Sink

def room (s : Sink) (bytes : List UInt8) : Nat :=
  match s.limit with
  | none => bytes.length
  | some limit => limit - s.written.size

def write (s : Sink) (bytes : List UInt8) : Bool × Sink :=
  (decide (bytes.length ≤ s.room bytes), { s with written := s.written ++ (bytes.take (s.room bytes)).toArray })

def writeAll (s : Sink) : List (List UInt8) → List Bool × Sink
  | [] => ([], s)
  | line :: lines =>
    let (complete, s) := s.write line
    let (rest, s) := s.writeAll lines
    (complete :: rest, s)

end Sink

def writeReport (format : OutputFormat) (records : List Record) (s : Sink) : List Bool × Sink :=
  s.writeAll (headerBytes format :: records.map (recordBytes format))

end Report

end DecodeBench
