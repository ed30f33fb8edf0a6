/-! A reproducible stream of 32-bit words: the key stream of ChaCha with twelve rounds, a zero nonce
and a 64-bit block counter from zero, under a key that is drawn from a 64-bit seed. -/

namespace DecodeBench.Transformer.KeyStream

/-! ### Keys from seeds -/

def advance (state : UInt64) : UInt64 := state * 6364136223846793005 + 11634580027462260723

def rotateLeft (x n : UInt32) : UInt32 := (x <<< n) ||| (x >>> ((32 - n) % 32))

def rotateRight (x n : UInt32) : UInt32 := (x >>> n) ||| (x <<< ((32 - n) % 32))

def permuted (state : UInt64) : UInt32 :=
  rotateRight (((state >>> 18) ^^^ state) >>> 27).toUInt32 (state >>> 59).toUInt32

def keyWords : (count : Nat) → (state : UInt64) → List UInt32
  | 0, _ => []
  | count + 1, state => permuted (advance state) :: keyWords count (advance state)

def key (seed : Nat) : List UInt32 := keyWords 8 seed.toUInt64

/-! ### Blocks -/

abbrev Block := Array UInt32

def constants : List UInt32 := [0x61707865, 0x3320646e, 0x79622d32, 0x6b206574]

def start (key : List UInt32) (counter : UInt64) : Block :=
  (constants ++ key ++ [counter.toUInt32, (counter >>> 32).toUInt32, 0, 0]).toArray

def mix (b : Block) (i j k : Nat) (n : UInt32) : Block :=
  let sum := b.getD i 0 + b.getD j 0
  (b.setIfInBounds i sum).setIfInBounds k (rotateLeft (b.getD k 0 ^^^ sum) n)

def quarter (b : Block) (i j k l : Nat) : Block :=
  mix (mix (mix (mix b i j l 16) k l j 12) i j l 8) k l j 7

def doubleRound (b : Block) : Block :=
  let b := quarter (quarter (quarter (quarter b 0 4 8 12) 1 5 9 13) 2 6 10 14) 3 7 11 15
  quarter (quarter (quarter (quarter b 0 5 10 15) 1 6 11 12) 2 7 8 13) 3 4 9 14

def block (key : List UInt32) (counter : UInt64) : Block :=
  let b := start key counter
  (Nat.repeat doubleRound 6 b).zipWith (· + ·) b

def words (seed count : Nat) : Array UInt32 :=
  let key := key seed
  (Array.range ((count + 15) / 16)).flatMap fun i => block key i.toUInt64

end DecodeBench.Transformer.KeyStream
