import DecodeBench.Json.Skip
import DecodeBench.Json.Value

/-! What a field of a record can hold: how values of each kind are read from tokens and written. -/

namespace DecodeBench.Json

inductive Kind where
  | count (limit : Nat) (name : String)
  | flag
  | counts
  | choice (names : List String)

abbrev Kind.Value : Kind → Type
  | .count _ _ => Nat
  | .flag => Bool
  | .counts => List Nat
  | .choice names => Fin names.length

def mismatch (expected : String) : List Token → ReadError
  | .null :: _ => .invalidType .null expected
  | .boolean b :: _ => .invalidType (.boolean b) expected
  | .numeral n :: _ =>
    match n.number? with
    | some (.natural v) => .invalidType (.integer v) expected
    | some (.negative i) => .invalidType (.integer i) expected
    | some (.real x) => .invalidType (.real x) expected
    | none => .malformed
  | .string body :: _ =>
    match text? body with
    | some s => .invalidType (.text s) expected
    | none => .malformed
  | .openBracket :: _ => .invalidType .sequence expected
  | .openBrace :: _ => .invalidType .map expected
  | _ => .malformed

namespace Kind

def word64 : Kind := .count (Nat.pow 2 64) "u64"

def size : Kind := .count (Nat.pow 2 64) "usize"

def word32 : Kind := .count (Nat.pow 2 32) "u32"

def readCount (limit : Nat) (name : String) : List Token → Except ReadError (Nat × List Token)
  | .numeral n :: ts =>
    match n.number? with
    | some (.natural v) => if v < limit then .ok (v, ts) else .error (.invalidValue v name)
    | some (.negative i) => .error (.invalidValue i name)
    | some (.real x) => .error (.invalidType (.real x) name)
    | none => .error .malformed
  | ts => .error (mismatch name ts)

def readFlag : List Token → Except ReadError (Bool × List Token)
  | .boolean b :: ts => .ok (b, ts)
  | ts => .error (mismatch "a boolean" ts)

def readElements : List Token → Except ReadError (List Nat × List Token)
  | [] => .error .malformed
  | t :: ts =>
    match readCount (Nat.pow 2 64) "usize" [t], ts with
    | .error e, _ => .error e
    | .ok (n, _), .closeBracket :: ts => .ok ([n], ts)
    | .ok (n, _), .comma :: ts => (readElements ts).map fun (ns, ts) => (n :: ns, ts)
    | .ok _, _ => .error .malformed

def readCounts : List Token → Except ReadError (List Nat × List Token)
  | .openBracket :: .closeBracket :: ts => .ok ([], ts)
  | .openBracket :: ts => readElements ts
  | ts => .error (mismatch "a sequence" ts)

def findName (names : List String) (given : String) : Except ReadError (Fin names.length) :=
  match names.finIdxOf? given with
  | some i => .ok i
  | none => .error (.unknownName given names)

def readName (names : List String) (body : List UInt8) : Except ReadError (Fin names.length) :=
  match text? body with
  | some given => findName names given
  | none => .error .malformed

def readChoice (names : List String) : List Token → Except ReadError (Fin names.length × List Token)
  | .string body :: ts => do return (← readName names body, ts)
  | .openBrace :: .string body :: ts => do
    let i ← readName names body
    match ts with
    | .colon :: .null :: .closeBrace :: ts => .ok (i, ts)
    | .colon :: .null :: _ => .error .malformed
    | .colon :: ts => .error (mismatch "unit" ts)
    | _ => .error .malformed
  | _ => .error .malformed

def read : (k : Kind) → List Token → Except ReadError (k.Value × List Token)
  | .count limit name => readCount limit name
  | .flag => readFlag
  | .counts => readCounts
  | .choice names => readChoice names

def write : (k : Kind) → k.Value → Json.Value
  | .count _ _, n => .natural n
  | .flag, b => .boolean b
  | .counts, ns => .array (ns.map .natural)
  | .choice names, i => .word names[i]

theorem readCount_length {limit : Nat} {name : String} {ts rest : List Token} {n : Nat}
    (h : readCount limit name ts = .ok (n, rest)) : rest.length < ts.length := by
  unfold readCount at h
  grind

theorem readFlag_length {ts rest : List Token} {b : Bool} (h : readFlag ts = .ok (b, rest)) :
    rest.length < ts.length := by
  unfold readFlag at h
  grind

theorem readElements_length {ts rest : List Token} {ns : List Nat} (h : readElements ts = .ok (ns, rest)) :
    rest.length < ts.length := by
  fun_induction readElements ts generalizing ns rest with
  | case1 => simp at h
  | case2 => simp at h
  | case3 =>
    simp only [Except.ok.injEq, Prod.mk.injEq] at h
    simp only [List.length_cons, ← h.2]
    omega
  | case4 t n m ts hn ih =>
    cases hr : readElements ts with
    | error e => simp [hr, Except.map] at h
    | ok p =>
      have := ih hr
      simp only [hr, Except.map, Except.ok.injEq, Prod.mk.injEq] at h
      simp only [List.length_cons, ← h.2]
      omega
  | case5 => simp at h

theorem readCounts_length {ts rest : List Token} {ns : List Nat} (h : readCounts ts = .ok (ns, rest)) :
    rest.length < ts.length := by
  unfold readCounts at h
  split at h
  · simp only [Except.ok.injEq, Prod.mk.injEq] at h
    simp only [List.length_cons, ← h.2]
    omega
  · have := readElements_length h
    simp only [List.length_cons]
    omega
  · simp at h

theorem readChoice_length {names : List String} {ts rest : List Token} {i : Fin names.length}
    (h : readChoice names ts = .ok (i, rest)) : rest.length < ts.length := by
  unfold readChoice at h
  split at h
  · rename_i body ts
    cases hn : readName names body <;> simp_all [bind, Except.bind, pure, Except.pure]
  · rename_i body ts
    cases hn : readName names body with
    | error e => simp [hn, bind, Except.bind] at h
    | ok i =>
      simp only [hn, bind, Except.bind] at h
      split at h <;> simp_all
      omega
  · simp at h

theorem read_length {k : Kind} {ts rest : List Token} {v : k.Value} (h : k.read ts = .ok (v, rest)) :
    rest.length < ts.length := by
  cases k with
  | count limit name => exact readCount_length h
  | flag => exact readFlag_length h
  | counts => exact readCounts_length h
  | choice names => exact readChoice_length h

end Kind

end DecodeBench.Json
