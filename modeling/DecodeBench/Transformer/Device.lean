import DecodeBench.Cache.NumberFormat
import DecodeBench.Request

/-! The device that an engine computes on, through a tensor library that is not part of the engine. A
forward pass goes through stages, each of which the library carries out or refuses. What it says depends
on the format and on the work it is given, not on the numbers in the tensors. -/

namespace DecodeBench.Transformer

/-- A batch in its place: its rows are stored from `start` on and the first `extent` cells are read. The mask has a row
for each request, which says of each of these cells whether the request sees it. -/
structure Work where
  requests : List Request
  start : Nat
  extent : Nat
  mask : List (List Bool)
  deriving DecidableEq, Repr

inductive Stage where
  | embed
  | project (layer : Nat)
  | attend (layer : Nat)
  | predict
  | collect
  deriving DecidableEq, Repr

structure Device where
  completes : Cache.NumberFormat → Work → Stage → Bool

end DecodeBench.Transformer
