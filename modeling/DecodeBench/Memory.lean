/-! What fits into one block of memory, and into one word. -/

namespace DecodeBench.Memory

/-- Offsets into a block are signed words. -/
def blockLimit : Nat := Nat.pow 2 63

def holds (entries entrySize : Nat) : Bool := decide (entries * entrySize < blockLimit)

def lastWord : Nat := Nat.pow 2 64 - 1

end DecodeBench.Memory
