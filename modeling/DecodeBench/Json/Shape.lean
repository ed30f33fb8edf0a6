import DecodeBench.Json.Kind

/-! Records of fixed fields as JSON. A record is read from an object, with its members in any order
and others between them, or from an array of its fields in order; it is written as an object. -/

namespace DecodeBench.Json

structure Field where
  name : String
  kind : Kind
  aliases : List String := []

def Field.answersTo (f : Field) (key : String) : Bool := key == f.name || f.aliases.contains key

structure Shape where
  name : String
  fields : List Field

abbrev Values : List Field → Type
  | [] => Unit
  | f :: fs => f.kind.Value × Values fs

abbrev Slots : List Field → Type
  | [] => Unit
  | f :: fs => Option f.kind.Value × Slots fs

namespace Slots

def empty : (fs : List Field) → Slots fs
  | [] => ()
  | _ :: fs => (none, empty fs)

def complete : (fs : List Field) → Slots fs → Except ReadError (Values fs)
  | [], () => .ok ()
  | f :: _, (none, _) => .error (.missingField f.name)
  | _ :: fs, (some v, slots) => (complete fs slots).map fun vs => (v, vs)

/-- The member with the given key, from its colon on, if the key means a field. A field that has a
value already is refused before the value is looked at. -/
def readMember? : (fs : List Field) → Slots fs → (key : String) → List Token →
    Option (Except ReadError (Slots fs × List Token))
  | [], _, _, _ => none
  | f :: fs, (slot, slots), key, ts =>
    if f.answersTo key then
      match slot, ts with
      | some _, _ => some (.error (.duplicateField f.name))
      | none, .colon :: ts => some ((f.kind.read ts).map fun (v, ts) => ((some v, slots), ts))
      | none, _ => some (.error .malformed)
    else (readMember? fs slots key ts).map fun r => r.map fun (slots, ts) => ((slot, slots), ts)

theorem readMember?_length {fs : List Field} {slots slots' : Slots fs} {key : String} {ts rest : List Token}
    (h : readMember? fs slots key ts = some (.ok (slots', rest))) : rest.length < ts.length := by
  induction fs generalizing rest with
  | nil => simp [readMember?] at h
  | cons f fs ih =>
    obtain ⟨slot, slots⟩ := slots
    unfold readMember? at h
    split at h
    · split at h
      · simp at h
      · rename_i ts
        cases hr : f.kind.read ts with
        | error e => simp [hr, Except.map] at h
        | ok p =>
          have := Kind.read_length hr
          simp only [hr, Except.map, Option.some.injEq, Except.ok.injEq, Prod.mk.injEq] at h
          simp only [List.length_cons, ← h.2]
          omega
      · simp at h
    · obtain ⟨r, hr, hh⟩ := Option.map_eq_some_iff.1 h
      cases r with
      | error e => simp [Except.map] at hh
      | ok p =>
        obtain ⟨slots'', rest'⟩ := p
        have := ih hr
        simp only [Except.map, Except.ok.injEq, Prod.mk.injEq] at hh
        simpa only [← hh.2] using this

end Slots

namespace Shape

def readMember (fs : List Field) (slots : Slots fs) (body : List UInt8) (ts : List Token) :
    Except ReadError (Slots fs × List Token) :=
  match text? body with
  | none => .error .malformed
  | some key =>
    match Slots.readMember? fs slots key ts, ts with
    | some r, _ => r
    | none, .colon :: ts => (skipValue ts).map fun ts => (slots, ts)
    | none, _ => .error .malformed

theorem readMember_length {fs : List Field} {slots slots' : Slots fs} {body : List UInt8} {ts rest : List Token}
    (h : readMember fs slots body ts = .ok (slots', rest)) : rest.length < ts.length := by
  unfold readMember at h
  split at h
  · simp at h
  · split at h
    · rename_i hr
      exact Slots.readMember?_length (hr.trans (congrArg some h))
    · rename_i ts _
      cases hs : skipValue ts with
      | error e => simp [hs, Except.map] at h
      | ok p =>
        have := skip_length hs
        simp only [hs, Except.map, Except.ok.injEq, Prod.mk.injEq] at h
        simp only [List.length_cons, ← h.2]
        omega
    · simp at h

def readMembers (fs : List Field) (slots : Slots fs) : List Token → Except ReadError (Slots fs × List Token)
  | .closeBrace :: ts => .ok (slots, ts)
  | .comma :: .string body :: ts =>
    match _h : readMember fs slots body ts with
    | .error e => .error e
    | .ok (slots, rest) => readMembers fs slots rest
  | _ => .error .malformed
termination_by ts => ts.length
decreasing_by
  have := readMember_length _h
  simp only [List.length_cons]
  omega

def readFirstMembers (fs : List Field) : List Token → Except ReadError (Slots fs × List Token)
  | .closeBrace :: ts => .ok (Slots.empty fs, ts)
  | .string body :: ts => do
    let (slots, ts) ← readMember fs (Slots.empty fs) body ts
    readMembers fs slots ts
  | _ => .error .malformed

def readObject (fs : List Field) (ts : List Token) : Except ReadError (Values fs × List Token) := do
  let (slots, ts) ← readFirstMembers fs ts
  return (← slots.complete fs, ts)

def readArray (name : String) (total : Nat) : (fs : List Field) → (index : Nat) → List Token →
    Except ReadError (Values fs × List Token)
  | [], _, .closeBracket :: ts => .ok ((), ts)
  | [], _, _ => .error .malformed
  | _ :: _, index, .closeBracket :: _ => .error (.invalidLength index name total)
  | f :: fs, index, ts =>
    match index, ts with
    | 0, ts | _ + 1, .comma :: ts => do
      let (v, ts) ← f.kind.read ts
      let (vs, ts) ← readArray name total fs (index + 1) ts
      return ((v, vs), ts)
    | _, _ => .error .malformed

def read (s : Shape) : List Token → Except ReadError (Values s.fields × List Token)
  | .openBrace :: ts => readObject s.fields ts
  | .openBracket :: ts => readArray s.name s.fields.length s.fields 0 ts
  | ts => .error (mismatch ("struct " ++ s.name) ts)

def writeMembers : (fs : List Field) → Values fs → List (String × Json.Value)
  | [], () => []
  | f :: fs, (v, vs) => (f.name, f.kind.write v) :: writeMembers fs vs

def write (s : Shape) (vs : Values s.fields) : Json.Value := .record (writeMembers s.fields vs)

def writeElements : (fs : List Field) → Values fs → List Json.Value
  | [], () => []
  | f :: fs, (v, vs) => f.kind.write v :: writeElements fs vs

end Shape

def parse {α : Type} (read : List Token → Except ReadError (α × List Token)) (bytes : List UInt8) :
    Except ReadError α :=
  match read (Token.list bytes) with
  | .ok (a, []) => .ok a
  | .ok _ => .error .malformed
  | .error e => .error e

end DecodeBench.Json
