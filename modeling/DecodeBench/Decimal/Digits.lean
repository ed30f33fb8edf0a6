/-! Decimal digits of natural numbers, most significant first. -/

namespace DecodeBench.Decimal

abbrev Digits := List (Fin 10)

def digits (n : Nat) : Digits :=
  if h : n < 10 then [⟨n, h⟩] else digits (n / 10) ++ [⟨n % 10, Nat.mod_lt n (by decide)⟩]

def value (ds : Digits) : Nat := ds.foldl (fun n d => 10 * n + d.val) 0

theorem value_append_singleton (ds : Digits) (d : Fin 10) : value (ds ++ [d]) = 10 * value ds + d.val := by
  simp [value, List.foldl_append]

theorem value_digits (n : Nat) : value (digits n) = n := by
  fun_induction digits n with
  | case1 n h => simp [value]
  | case2 n h ih => rw [value_append_singleton, ih]; exact Nat.div_add_mod n 10

def zeros (n : Nat) : Digits := List.replicate n 0

def padded (width n : Nat) : Digits := zeros (width - (digits n).length) ++ digits n

def char (d : Fin 10) : Char := Char.ofNat (48 + d.val)

def text (ds : Digits) : String := String.ofList (ds.map char)

end DecodeBench.Decimal
