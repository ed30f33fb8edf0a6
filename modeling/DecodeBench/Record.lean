import DecodeBench.Grid

/-! What a sweep reports: a measurement for each trial, or the reason why there is none. -/

namespace DecodeBench

structure Measurement where
  point : GridPoint
  repeatIndex : Nat
  requiredSlots : Nat
  prefillSeconds : Float
  decodeSeconds : Float
  prefillRate : Float
  decodeRate : Float
  combinedRate : Float
  deriving Inhabited

def rate (tokens : Nat) (seconds : Float) : Float :=
  if tokens = 0 then 0 else tokens.toUInt64.toFloat / seconds

namespace Measurement

def prefillTokens (p : GridPoint) (shared : Bool) : Nat :=
  if shared then p.promptLength else p.parallelism * p.promptLength

def ofTimings (point : GridPoint) (repeatIndex : Nat) (shared : Bool) (prefillSeconds decodeSeconds : Float) :
    Measurement where
  point
  repeatIndex
  requiredSlots := point.requiredSlots shared
  prefillSeconds
  decodeSeconds
  prefillRate := rate (prefillTokens point shared) prefillSeconds
  decodeRate := rate (point.parallelism * point.genLength) decodeSeconds
  combinedRate := rate (point.requiredSlots shared) (prefillSeconds + decodeSeconds)

end Measurement

inductive SkipReason where
  | budgetExceeded
  | decodeFailed (chunk : Nat) (status : Int)
  deriving DecidableEq, Repr, Inhabited

def SkipReason.message : SkipReason → String
  | .budgetExceeded => "kv cache not enough"
  | .decodeFailed _ status => s!"decode failed ({status})"

structure SkippedPoint where
  point : GridPoint
  requiredSlots : Nat
  reason : SkipReason
  deriving DecidableEq, Repr, Inhabited

inductive Record where
  | trial (m : Measurement)
  | skipped (s : SkippedPoint)
  deriving Inhabited

namespace Record

def isTrial : Record → Bool
  | .trial _ => true
  | .skipped _ => false

def point : Record → GridPoint
  | .trial m => m.point
  | .skipped s => s.point

def requiredSlots : Record → Nat
  | .trial m => m.requiredSlots
  | .skipped s => s.requiredSlots

end Record

end DecodeBench
