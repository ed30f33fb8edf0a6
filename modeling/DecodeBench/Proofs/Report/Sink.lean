import DecodeBench.Report
import Mathlib.Tactic.Common

/-! Lines written one after another to an output that may fill up. What is offered counts, not how it
is cut: two writes in turn leave what one write of both together leaves. -/

namespace DecodeBench.Report.Sink

variable {s : Sink} {limit : Nat}

/-! ### One write -/

@[simp] lemma limit_write (bytes : List UInt8) : (s.write bytes).2.limit = s.limit := rfl

@[simp] lemma write_nil : s.write [] = (true, s) := by
  simp [write]

lemma write_unlimited (h : s.limit = none) (bytes : List UInt8) :
    s.write bytes = (true, { s with written := s.written ++ bytes.toArray }) := by
  simp [write, room, h]

lemma write_limited (h : s.limit = some limit) (hroom : s.written.size ≤ limit) (bytes : List UInt8) :
    (s.write bytes).1 = decide (s.written.size + bytes.length ≤ limit) ∧
    (s.write bytes).2.written.toList = (s.written.toList ++ bytes).take limit := by
  constructor
  · simp only [write, room, h]
    exact decide_eq_decide.2 (by omega)
  · simp [write, room, h, List.take_append, List.take_of_length_le hroom]

lemma write_after_loss {bytes : List UInt8} (h : (s.write bytes).1 = false) (more : List UInt8) :
    (s.write bytes).2.write more = (more.isEmpty, (s.write bytes).2) := by
  cases hl : s.limit with
  | none => simp [write_unlimited hl] at h
  | some limit =>
    have hlost : limit - s.written.size < bytes.length := by simpa [write, room, hl] using h
    have hfull : limit - (s.written.size + (limit - s.written.size)) = 0 := by omega
    have hmin := Nat.min_eq_left (Nat.le_of_lt hlost)
    cases more <;> simp [write, room, hl, hmin, hfull]

lemma write_append (xs ys : List UInt8) : s.write (xs ++ ys) =
    ((s.write xs).1 && ((s.write xs).2.write ys).1, ((s.write xs).2.write ys).2) := by
  cases hl : s.limit with
  | none => simp [write_unlimited hl, write_unlimited (s := { s with written := s.written ++ xs.toArray }) hl]
  | some limit =>
    cases hx : (s.write xs).1 with
    | false =>
      have hlost : limit - s.written.size < xs.length := by simpa [write, room, hl] using hx
      rw [write_after_loss hx]
      simp only [write, room, hl, List.length_append, List.take_append_of_le_length (Nat.le_of_lt hlost),
        Bool.false_and]
      rw [decide_eq_false (by omega)]
    | true =>
      have hfits : xs.length ≤ limit - s.written.size := by simpa [write, room, hl] using hx
      simp only [write, room, hl, List.length_append, List.take_of_length_le hfits, List.take_append, Bool.true_and,
        Array.size_append, List.size_toArray, Prod.mk.injEq, decide_eq_decide, Sink.mk.injEq, true_and]
      refine ⟨by omega, ?_⟩
      simp [Nat.sub_sub]

/-! ### Lines in turn -/

lemma writeAll_cons (line : List UInt8) (lines : List (List UInt8)) : s.writeAll (line :: lines) =
    ((s.write line).1 :: ((s.write line).2.writeAll lines).1, ((s.write line).2.writeAll lines).2) := rfl

lemma length_writeAll (lines : List (List UInt8)) : (s.writeAll lines).1.length = lines.length := by
  induction lines generalizing s with
  | nil => rfl
  | cons line lines ih => simp [writeAll_cons, ih]

lemma writeAll_unlimited (h : s.limit = none) (lines : List (List UInt8)) :
    (s.writeAll lines).2.written.toList = s.written.toList ++ lines.flatten := by
  induction lines generalizing s with
  | nil => simp [writeAll]
  | cons line lines ih => rw [writeAll_cons, ih (by simpa using h)]; simp [write_unlimited h]

lemma writeAll_limited (h : s.limit = some limit) (hroom : s.written.size ≤ limit) (lines : List (List UInt8)) :
    (s.writeAll lines).2.written.toList = (s.written.toList ++ lines.flatten).take limit := by
  induction lines generalizing s with
  | nil => simp [writeAll, List.take_of_length_le hroom]
  | cons line lines ih =>
    have hwritten := (write_limited h hroom line).2
    have hsize : (s.write line).2.written.size ≤ limit := by
      rw [← Array.length_toList, hwritten]
      exact List.length_take_le _ _
    rw [writeAll_cons, ih (by simpa using h) hsize, hwritten, List.flatten_cons, ← List.append_assoc,
      List.take_append, List.take_take, Nat.min_self, List.length_take]
    conv_rhs => rw [List.take_append]
    congr 2
    omega

/-- A line is reported complete if everything up to its end fits. An empty line always is: only the
first may be empty, since the others would hide that the output is full already. -/
lemma answer_writeAll_limited (h : s.limit = some limit) (hroom : s.written.size ≤ limit) {lines : List (List UInt8)}
    (hlines : ∀ line ∈ lines.tail, line ≠ []) {i : Nat} (hi : i < lines.length) : (s.writeAll lines).1[i]? =
    some (decide (s.written.size + (lines.take (i + 1)).flatten.length ≤ limit)) := by
  induction lines generalizing s i with
  | nil => simp at hi
  | cons line lines ih =>
    have hfirst := write_limited h hroom line
    have hsize : (s.write line).2.written.size = min limit (s.written.size + line.length) := by
      rw [← Array.length_toList, hfirst.2, List.length_take, List.length_append, Array.length_toList]
    cases i with
    | zero => simp [writeAll_cons, hfirst.1]
    | succ i =>
      cases lines with
      | nil => simp at hi
      | cons next lines =>
        have hnext := List.length_pos_iff.2 (hlines next (List.mem_cons_self ..))
        rw [writeAll_cons, List.getElem?_cons_succ, ih (by simpa using h) (by omega)
          (fun l hl => hlines l (List.mem_cons_of_mem _ hl)) (Nat.lt_of_succ_lt_succ hi), hsize]
        simp only [List.take_succ_cons, List.flatten_cons, List.length_append, Option.some.injEq, decide_eq_decide]
        omega

end DecodeBench.Report.Sink
