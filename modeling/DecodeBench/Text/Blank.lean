import DecodeBench.Text.CodePoints

/-! White space in the sense of Unicode, and text without it at its ends. -/

namespace DecodeBench.Text

def blankRanges : Array (Nat × Nat) :=
  #[(0x09, 0x0d), (0x20, 0x20), (0x85, 0x85), (0xa0, 0xa0), (0x1680, 0x1680), (0x2000, 0x200a), (0x2028, 0x2029),
    (0x202f, 0x202f), (0x205f, 0x205f), (0x3000, 0x3000)]

def isBlank : Char → Bool := isWithin blankRanges

def trim (cs : List Char) : List Char := ((cs.dropWhile isBlank).reverse.dropWhile isBlank).reverse

end DecodeBench.Text
