import DecodeBench.Json.Error

/-! Passing over a value that nobody asked for. Its tokens have to follow the grammar, but the text
of its strings and the range of its numerals are not looked at. Containers that are still open are
held in a list, so values may nest to any depth. -/

namespace DecodeBench.Json

inductive Container where
  | array
  | object
  deriving DecidableEq, Repr

inductive Expect where
  | value
  | elementOrEnd
  | memberOrEnd
  | member
  | colon
  | separatorOrEnd
  deriving DecidableEq, Repr

inductive Progress where
  | finished
  | within (expect : Expect) (containers : List Container)
  deriving DecidableEq, Repr

namespace Progress

def ended : List Container → Progress
  | [] => finished
  | containers => within .separatorOrEnd containers

def start? (containers : List Container) : Token → Option Progress
  | .null | .boolean _ | .numeral _ | .string _ => some (ended containers)
  | .openBracket => some (within .elementOrEnd (.array :: containers))
  | .openBrace => some (within .memberOrEnd (.object :: containers))
  | _ => none

def key? (containers : List Container) : Token → Option Progress
  | .string _ => some (within .colon containers)
  | _ => none

def step? (expect : Expect) (containers : List Container) (t : Token) : Option Progress :=
  match expect with
  | .value => start? containers t
  | .elementOrEnd => if t = .closeBracket then some (ended containers.tail) else start? containers t
  | .memberOrEnd => if t = .closeBrace then some (ended containers.tail) else key? containers t
  | .member => key? containers t
  | .colon => if t = .colon then some (within .value containers) else none
  | .separatorOrEnd =>
    match containers with
    | [] => none
    | .array :: outer =>
      if t = .comma then some (within .value containers) else if t = .closeBracket then some (ended outer) else none
    | .object :: outer =>
      if t = .comma then some (within .member containers) else if t = .closeBrace then some (ended outer) else none

end Progress

def skip (expect : Expect) (containers : List Container) : List Token → Except ReadError (List Token)
  | [] => .error .malformed
  | t :: ts =>
    match Progress.step? expect containers t with
    | none => .error .malformed
    | some .finished => .ok ts
    | some (.within expect containers) => skip expect containers ts

def skipValue (ts : List Token) : Except ReadError (List Token) := skip .value [] ts

theorem skip_length {expect : Expect} {containers : List Container} {ts rest : List Token}
    (h : skip expect containers ts = .ok rest) : rest.length < ts.length := by
  fun_induction skip expect containers ts with
  | case1 => simp at h
  | case2 => simp at h
  | case3 => simp_all
  | case4 expect containers t ts e cs hs ih => have := ih h; simp only [List.length_cons]; omega

end DecodeBench.Json
