import DecodeBench.Transformer.Weights

/-! Multi-head attention of one token over the cells that it sees. Each head works on a block of
consecutive columns. -/

namespace DecodeBench.Transformer

def shown (mask : List Bool) (rows : List Vec) : List Vec :=
  (mask.zip rows).filterMap fun (visible, row) => if visible then some row else none

def headBlock (size head : Nat) (x : Vec) : Vec := x.extract (head * size) ((head + 1) * size)

def softmax (scores : List Float) : List Float :=
  let top := scores.foldl max (scores.headD 0)
  let powers := scores.map fun s => (s - top).exp
  let total := powers.foldl (· + ·) 0
  powers.map (· / total)

def weightedSum (width : Nat) (weights : List Float) (rows : List Vec) : Vec :=
  (weights.zip rows).foldl (fun sum (p, row) => sum.zipWith (fun a b => a + p * b) row) (Array.replicate width 0)

def attendHead (size head : Nat) (query : Vec) (keys values : List Vec) : Vec :=
  let q := headBlock size head query
  let scale := 1 / (size.toUInt64.toFloat).sqrt
  let weights := softmax (keys.map fun k => dot q (headBlock size head k) * scale)
  weightedSum size weights (values.map (headBlock size head))

def attend (size heads : Nat) (query : Vec) (keys values : List Vec) : Vec :=
  (Array.range heads).flatMap fun h => attendHead size h query keys values

end DecodeBench.Transformer
