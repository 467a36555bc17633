import Mathlib.Algebra.Group.Nat.Defs

/-!
# Decimal digits

The digits of a number as characters: a leading zero stands alone, and there is nothing but digits.
-/

namespace FleetWatch

theorem toDigits_ne_zero_cons {n : Nat} (pos : 0 < n) (ds : List Char) :
    Nat.toDigits 10 n ≠ '0' :: ds := by
  induction n using Nat.strongRecOn generalizing ds with
  | ind n ih =>
    intro zero
    by_cases small : n < 10
    · rw [Nat.toDigits_of_lt_base small] at zero
      have first : n.digitChar = '0' := (List.cons.inj zero).1
      have none := Nat.digitChar_eq_zero.1 first
      omega
    · rw [Nat.toDigits_of_base_le (by omega) (by omega)] at zero
      cases front : Nat.toDigits 10 (n / 10) with
      | nil => exact Nat.toDigits_ne_nil front
      | cons d ds' =>
        rw [front] at zero
        obtain ⟨rfl, -⟩ := List.cons.inj zero
        exact ih (n / 10) (by omega) (by omega) ds' front

theorem toDigits_canonical (n : Nat) (rest : List Char) (zero : Nat.toDigits 10 n = '0' :: rest) :
    rest = [] := by
  cases n with
  | zero => simpa using zero.symm
  | succ n => exact absurd zero (toDigits_ne_zero_cons (Nat.succ_pos n) rest)

theorem isDigit_of_mem_toDigits {n : Nat} {c : Char} (member : c ∈ Nat.toDigits 10 n) :
    c.isDigit = true := Nat.isDigit_of_mem_toDigits (by omega) (by omega) member

theorem not_mem_toDigits {c : Char} (other : c.isDigit = false) (n : Nat) :
    c ∉ Nat.toDigits 10 n := fun member => by simp [isDigit_of_mem_toDigits member] at other

/-- A run of digits and what is behind it are known from the text of both. -/
theorem toDigits_append_inj {m n : Nat} {c d : Char} {cs ds : List Char} (stop : c.isDigit = false)
    (stop' : d.isDigit = false)
    (same : Nat.toDigits 10 m ++ c :: cs = Nat.toDigits 10 n ++ d :: ds) :
    m = n ∧ c :: cs = d :: ds := by
  have taken (n : Nat) {c : Char} (stop : c.isDigit = false) (cs : List Char) :
      (Nat.toDigits 10 n ++ c :: cs).takeWhile Char.isDigit = Nat.toDigits 10 n := by
    rw [List.takeWhile_append_of_pos fun _ => isDigit_of_mem_toDigits,
      List.takeWhile_cons_of_neg (by simp [stop]), List.append_nil]
  have digits : Nat.toDigits 10 m = Nat.toDigits 10 n := by
    rw [← taken m stop cs, same, taken n stop' ds]
  obtain rfl : m = n := by
    simpa using congrArg (Nat.ofDigitChars 10 · 0) digits
  exact ⟨rfl, List.append_cancel_left same⟩

end FleetWatch
