import DecodeBench.Json.Numeral

/-! JSON tokens and the text of each. Text is cut into tokens from the left; whitespace between
tokens is dropped, and where no token starts the list ends in `bad`. -/

namespace DecodeBench.Json

inductive Token where
  | openBrace
  | closeBrace
  | openBracket
  | closeBracket
  | colon
  | comma
  | null
  | boolean (b : Bool)
  | numeral (n : Numeral)
  | string (body : List UInt8)
  | bad
  deriving DecidableEq, Repr, Inhabited

abbrev quote : UInt8 := 0x22

abbrev backslash : UInt8 := 0x5c

def utf8 (s : String) : List UInt8 := s.toUTF8.toList

def isBlank (b : UInt8) : Bool := b == 0x20 || b == 0x09 || b == 0x0a || b == 0x0d

def hex? (b : UInt8) : Option Nat :=
  if 48 ≤ b.toNat ∧ b.toNat < 58 then some (b.toNat - 48)
  else if 97 ≤ b.toNat ∧ b.toNat < 103 then some (b.toNat - 87)
  else if 65 ≤ b.toNat ∧ b.toNat < 71 then some (b.toNat - 55)
  else none

def hexUnit? (a b c d : UInt8) : Option Nat := do
  return ((← hex? a) * 16 + (← hex? b)) * 256 + ((← hex? c) * 16 + (← hex? d))

def simpleEscape? (b : UInt8) : Option UInt8 :=
  if b = 0x22 ∨ b = 0x5c ∨ b = 0x2f then some b
  else if b = 0x62 then some 0x08
  else if b = 0x66 then some 0x0c
  else if b = 0x6e then some 0x0a
  else if b = 0x72 then some 0x0d
  else if b = 0x74 then some 0x09
  else none

namespace Token

def bytes : Token → List UInt8
  | openBrace => [0x7b]
  | closeBrace => [0x7d]
  | openBracket => [0x5b]
  | closeBracket => [0x5d]
  | colon => [0x3a]
  | comma => [0x2c]
  | null => [0x6e, 0x75, 0x6c, 0x6c]
  | boolean true => [0x74, 0x72, 0x75, 0x65]
  | boolean false => [0x66, 0x61, 0x6c, 0x73, 0x65]
  | numeral n => n.bytes
  | string body => quote :: body ++ [quote]
  | bad => []

/-- The body of a string up to its closing quote, and what follows. Control characters and unknown
escapes are refused; which characters the other bytes encode is not looked at. -/
def scanBody? : List UInt8 → Option (List UInt8 × List UInt8)
  | [] => none
  | 0x22 :: bs => some ([], bs)
  | 0x5c :: 0x75 :: a :: b :: c :: d :: bs =>
    if (hexUnit? a b c d).isSome then
      (scanBody? bs).map fun (body, rest) => (0x5c :: 0x75 :: a :: b :: c :: d :: body, rest)
    else none
  | 0x5c :: b :: bs =>
    if (simpleEscape? b).isSome then (scanBody? bs).map fun (body, rest) => (0x5c :: b :: body, rest) else none
  | b :: bs => if b < 0x20 ∨ b = 0x5c then none else (scanBody? bs).map fun (body, rest) => (b :: body, rest)

def after? : (expected text : List UInt8) → Option (List UInt8)
  | [], bs => some bs
  | _ :: _, [] => none
  | e :: es, b :: bs => if e = b then after? es bs else none

def punctuation? (b : UInt8) : Option Token :=
  [openBrace, closeBrace, openBracket, closeBracket, colon, comma].find? fun t => t.bytes == [b]

def word? (b : UInt8) : Option (Token × List UInt8) :=
  if b = 0x6e then some (null, [0x75, 0x6c, 0x6c])
  else if b = 0x74 then some (boolean true, [0x72, 0x75, 0x65])
  else if b = 0x66 then some (boolean false, [0x61, 0x6c, 0x73, 0x65])
  else none

def scan? : List UInt8 → Option (Token × List UInt8)
  | [] => none
  | b :: bs =>
    match punctuation? b, word? b with
    | some t, _ => some (t, bs)
    | none, some (t, letters) => (after? letters bs).map fun rest => (t, rest)
    | none, none =>
      if b = quote then (scanBody? bs).map fun (body, rest) => (string body, rest)
      else
        let scanned := if b = 0x2d then Numeral.scan? true bs else Numeral.scan? false (b :: bs)
        scanned.map fun (n, rest) => (numeral n, rest)

theorem scanBody?_length {bs body rest : List UInt8} (h : scanBody? bs = some (body, rest)) :
    rest.length < bs.length := by
  fun_induction scanBody? bs generalizing body rest with
  | case1 => simp at h
  | case2 bs => simp_all
  | case3 a b c d bs hx ih =>
    simp only [Option.map_eq_some_iff, Prod.exists, Prod.mk.injEq] at h
    obtain ⟨_, _, hr, _, rfl⟩ := h
    have := ih hr
    simp only [List.length_cons]
    omega
  | case4 => simp at h
  | case5 b bs _ hx ih =>
    simp only [Option.map_eq_some_iff, Prod.exists, Prod.mk.injEq] at h
    obtain ⟨_, _, hr, _, rfl⟩ := h
    have := ih hr
    simp only [List.length_cons]
    omega
  | case6 => simp at h
  | case7 => simp at h
  | case8 b bs _ _ _ hx ih =>
    simp only [Option.map_eq_some_iff, Prod.exists, Prod.mk.injEq] at h
    obtain ⟨_, _, hr, _, rfl⟩ := h
    have := ih hr
    simp only [List.length_cons]
    omega

theorem after?_length {expected bs rest : List UInt8} (h : after? expected bs = some rest) :
    rest.length ≤ bs.length := by
  fun_induction after? expected bs with
  | case1 bs => simp_all
  | case2 => simp at h
  | case3 e es bs ih => have := ih h; simp only [List.length_cons]; omega
  | case4 => simp at h

theorem scan?_length {bs rest : List UInt8} {t : Token} (h : scan? bs = some (t, rest)) : rest.length < bs.length := by
  match bs with
  | [] => simp [scan?] at h
  | b :: bs =>
    simp only [scan?] at h
    simp only [List.length_cons]
    split at h
    · simp_all
    · obtain ⟨_, hr, hh⟩ := Option.map_eq_some_iff.1 h
      have := after?_length hr
      simp only [Prod.mk.injEq] at hh
      obtain ⟨_, rfl⟩ := hh
      omega
    · split at h
      · obtain ⟨⟨_, _⟩, hr, hh⟩ := Option.map_eq_some_iff.1 h
        have := scanBody?_length hr
        simp only [Prod.mk.injEq] at hh
        obtain ⟨_, rfl⟩ := hh
        omega
      · obtain ⟨⟨_, _⟩, hr, hh⟩ := Option.map_eq_some_iff.1 h
        simp only [Prod.mk.injEq] at hh
        obtain ⟨_, rfl⟩ := hh
        split at hr
        · have := Numeral.scan?_length hr
          omega
        · exact Numeral.scan?_length hr

def list : List UInt8 → List Token
  | [] => []
  | b :: bs =>
    if isBlank b then list bs
    else match _h : scan? (b :: bs) with
      | some (t, rest) => t :: list rest
      | none => [bad]
termination_by bs => bs.length
decreasing_by
  · simp
  · exact scan?_length (by assumption)

end Token

end DecodeBench.Json
