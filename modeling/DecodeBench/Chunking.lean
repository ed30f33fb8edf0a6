import DecodeBench.Failure
import DecodeBench.Plan

/-! Handing a window to a decoder in chunks of bounded size. -/

namespace DecodeBench

/-- Submits windows in order and stops at the first that fails. The answer is the number of
windows, those already submitted included, or the index and status of the one that failed. -/
def submit : List Window → (submitted : Nat) → Plan (Except Failure Nat)
  | [], submitted => .done (.ok submitted)
  | w :: ws, submitted => .ask (.decode w) fun status =>
    if status = 0 then submit ws (submitted + 1) else .done (.error (.decodeFailed submitted status))

def decodeInChunks (w : Window) (limit : Nat) : Plan (Except Failure Nat) :=
  if limit = 0 then .done (.error (.invalidConfig .noChunkSize)) else submit (w.chunks limit) 0

end DecodeBench
