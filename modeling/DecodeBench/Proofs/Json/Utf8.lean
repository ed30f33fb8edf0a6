import DecodeBench.Json.Text
import Mathlib.Tactic.Common

/-! Bytes of text: those below 128 stand for one character each, and occur in no other. -/

namespace DecodeBench.Json

lemma toList_loop (bytes : ByteArray) (i : Nat) (reversed : List UInt8) :
    ByteArray.toList.loop bytes i reversed = reversed.reverse ++ bytes.data.toList.drop i := by
  fun_induction ByteArray.toList.loop bytes i reversed with
  | case1 i reversed hlt ih =>
    have hget : bytes.get! i = bytes.data.toList[i] := getElem!_pos bytes.data i hlt
    rw [ih, hget, List.drop_eq_getElem_cons (i := i) (by simpa using hlt)]
    simp
  | case2 i reversed hge =>
    rw [List.drop_eq_nil_of_le (by simpa using Nat.le_of_not_lt hge)]
    simp

lemma toList_eq_data (bytes : ByteArray) : bytes.toList = bytes.data.toList := by
  rw [ByteArray.toList, toList_loop]
  simp

lemma utf8_eq_flatMap (s : String) : utf8 s = s.toList.flatMap String.utf8EncodeChar := by
  rw [utf8, toList_eq_data, String.toUTF8_eq_toByteArray, ← String.utf8Encode_toList, List.utf8Encode]
  simp

lemma toNat_of_mem_utf8EncodeChar {c : Char} {b : UInt8} (hb : b ∈ String.utf8EncodeChar c) (hlt : b < 0x80) :
    b.toNat = c.toNat := by
  have hlow {n : Nat} (hge : 128 ≤ n) (hn : n < 256) (h : b = UInt8.ofNat n) : b.toNat = c.toNat := by
    rw [UInt8.lt_iff_toNat_lt, h, UInt8.toNat_ofNat_of_lt' hn] at hlt
    exact absurd hlt (Nat.not_lt.2 hge)
  revert hb
  fun_cases String.utf8EncodeChar c <;> simp only [List.mem_cons, List.not_mem_nil, or_false]
  case case1 v hv =>
    rintro rfl
    exact UInt8.toNat_ofNat_of_lt' (by rw [UInt8.size]; omega)
  case case2 => rintro (h | h) <;> exact hlow (by omega) (by omega) h
  case case3 => rintro (h | h | h) <;> exact hlow (by omega) (by omega) h
  case case4 => rintro (h | h | h | h) <;> exact hlow (by omega) (by omega) h

lemma utf8EncodeChar_of_lt {c : Char} (h : c.toNat < 128) : String.utf8EncodeChar c = [c.toNat.toUInt8] :=
  if_pos (Nat.le_of_lt_succ h)

lemma count_utf8EncodeChar {c : Char} (h : c.toNat < 128) (d : Char) :
    (String.utf8EncodeChar d).count c.toNat.toUInt8 = if d = c then 1 else 0 := by
  have hbyte : (c.toNat.toUInt8).toNat = c.toNat := UInt8.toNat_ofNat_of_lt' (by rw [UInt8.size]; omega)
  split_ifs with hd
  · simp [hd, utf8EncodeChar_of_lt h]
  · apply List.count_eq_zero.2
    intro hmem
    apply hd
    apply Char.toNat_inj.1
    rw [← toNat_of_mem_utf8EncodeChar hmem (by rw [UInt8.lt_iff_toNat_lt, hbyte]; exact h), hbyte]

lemma count_utf8 (s : String) {c : Char} (h : c.toNat < 128) : (utf8 s).count c.toNat.toUInt8 = s.toList.count c := by
  rw [utf8_eq_flatMap]
  induction s.toList with
  | nil => rfl
  | cons d ds ih => simp [List.count_append, count_utf8EncodeChar h, ih, List.count_cons, Nat.add_comm]

lemma fromUTF8?_utf8 (s : String) : String.fromUTF8? ⟨(utf8 s).toArray⟩ = some s := by
  have hbytes : ByteArray.mk (utf8 s).toArray = s.toByteArray := by
    rw [utf8, toList_eq_data]
    rfl
  rw [hbytes, String.fromUTF8?, dif_pos s.isValidUTF8]
  rfl

lemma utf8_inj {s t : String} : utf8 s = utf8 t ↔ s = t := by
  refine ⟨fun h => ?_, congrArg utf8⟩
  have hread := fromUTF8?_utf8 s
  rw [h, fromUTF8?_utf8] at hread
  exact (Option.some.inj hread).symm

/-! ### String bodies without escapes -/

lemma unescape?_of_plain {bytes : List UInt8} (h : backslash ∉ bytes) : unescape? bytes = some bytes := by
  induction bytes with
  | nil => rfl
  | cons b bytes ih =>
    rw [List.mem_cons, not_or] at h
    rw [unescape?.eq_def]
    split <;> simp_all

lemma text?_utf8 {s : String} (h : backslash ∉ utf8 s) : text? (utf8 s) = some s := by
  rw [text?, unescape?_of_plain h]
  exact fromUTF8?_utf8 s

end DecodeBench.Json
