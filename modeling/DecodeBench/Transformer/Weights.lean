import DecodeBench.Memory
import DecodeBench.Model.Dimensions
import DecodeBench.Transformer.KeyStream

/-! Random weights for a transformer. The words of the key stream are used up in the order
embeddings, then query, key, value and output matrix of each layer, then the output head; each
matrix row by row. -/

namespace DecodeBench.Transformer

open Model (Dimensions)

abbrev Vec := Array Float

abbrev Matrix := Array Vec

def dot (x y : Vec) : Float := (x.zipWith (· * ·) y).foldl (· + ·) 0

def Matrix.apply (m : Matrix) (x : Vec) : Vec := m.map (dot x)

def uniform (columns : Nat) (word : UInt32) : Float :=
  let bound : Float32 := 1 / (columns.toUInt64.toFloat32).sqrt
  let unit : Float32 := (word >>> 9).toFloat32 / 8388608
  (unit * (bound - -bound) + -bound).toFloat

abbrev Source := Nat → UInt32

def drawRow (s : Source) (offset columns row : Nat) : Vec :=
  Array.ofFn fun c : Fin columns => uniform columns (s (offset + row * columns + c))

def drawMatrix (s : Source) (offset rows columns : Nat) : Matrix :=
  Array.ofFn fun c : Fin columns => Array.ofFn fun r : Fin rows => uniform columns (s (offset + r * columns + c))

structure LayerWeights where
  query : Matrix
  key : Matrix
  value : Matrix
  output : Matrix

structure Weights where
  embeddings : Array Vec
  layers : List LayerWeights
  head : Matrix

namespace Weights

def fitMemory (d : Dimensions) : Bool :=
  Memory.holds (d.vocabulary * d.hidden) 4 && Memory.holds (d.hidden * d.hidden) 4

def wordCount (d : Dimensions) : Nat := 2 * (d.vocabulary * d.hidden) + d.layers * (4 * (d.hidden * d.hidden))

def drawLayer (s : Source) (d : Dimensions) (layer : Nat) : LayerWeights :=
  let square := d.hidden * d.hidden
  let offset := d.vocabulary * d.hidden + layer * (4 * square)
  let matrix (i : Nat) := drawMatrix s (offset + i * square) d.hidden d.hidden
  ⟨matrix 0, matrix 1, matrix 2, matrix 3⟩

def draw (d : Dimensions) (seed : Nat) : Weights :=
  let words := KeyStream.words seed (wordCount d)
  let s : Source := fun i => words.getD i 0
  { embeddings := (Array.range d.vocabulary).map (drawRow s 0 d.hidden)
    layers := (List.range d.layers).map (drawLayer s d)
    head := drawMatrix s (d.vocabulary * d.hidden + d.layers * (4 * (d.hidden * d.hidden))) d.hidden d.vocabulary }

end Weights

end DecodeBench.Transformer
