import FleetWatch.Number.Fixed
import FleetWatch.Proofs.Number.Digits
import FleetWatch.Proofs.Number.Order
import Mathlib.Algebra.Order.Field.Basic
import Mathlib.Algebra.Ring.Parity
import Mathlib.Tactic.Linarith

/-!
# Numerals with two decimals

The text of a number with two decimals is a numeral, and the value of the numeral is the hundredth
nearest to the number.

* `nearestMultiple_roundHalfEven`: a rounded quotient is the nearest multiple, of two the even one.
* `Centesimal.magnitude_ofHundredths`: the value of a written count of hundredths.
* `Centesimal.eq_of_text`: a text is no two numerals.
-/

namespace FleetWatch

/-! ## The nearest multiple -/

/-- No multiple of the unit is nearer to `q` than the `n`-th, and another that is as near is there
only beside an even one. -/
structure NearestMultiple (unit q : ℚ) (n : ℕ) : Prop where
  nearest : ∀ k : ℤ, |q - n * unit| ≤ |q - k * unit|
  even : ∀ k : ℤ, k ≠ n → |q - k * unit| = |q - n * unit| → Even n

/-- Twice the error is at most the divisor, and as great as it only beside an even number. -/
theorem error_roundHalfEven (num : Nat) {den : Nat} (positive : 0 < den) :
    2 * num ≤ 2 * (roundHalfEven num den * den) + den ∧
      2 * (roundHalfEven num den * den) ≤ 2 * num + den ∧
      (2 * num = 2 * (roundHalfEven num den * den) + den ∨
        2 * (roundHalfEven num den * den) = 2 * num + den → Even (roundHalfEven num den)) := by
  have parts := Nat.div_add_mod num den
  have remainder := Nat.mod_lt num positive
  rw [Nat.mul_comm] at parts
  simp only [roundHalfEven, Nat.even_iff]
  generalize num / den = quotient at parts ⊢
  generalize num % den = rest at parts remainder ⊢
  have next := Nat.succ_mul quotient den
  split
  · omega
  · split
    · rw [next]
      omega
    · rcases Nat.mod_two_eq_zero_or_one quotient with even | odd
      · rw [even, Nat.add_zero]
        omega
      · rw [odd, next]
        omega

theorem roundHalfEven_le_iff (num : Nat) {den : Nat} (positive : 0 < den) (n : Nat) :
    roundHalfEven num den ≤ n ↔
      2 * num < (2 * n + 1) * den ∨ 2 * num = (2 * n + 1) * den ∧ Even n := by
  obtain ⟨below, above, tie⟩ := error_roundHalfEven num positive
  generalize roundHalfEven num den = m at below above tie ⊢
  have half : (2 * n + 1) * den = 2 * (n * den) + den := by ring
  rw [half]
  constructor
  · intro le
    rcases Nat.lt_or_eq_of_le le with less | rfl
    · have next : (m + 1) * den ≤ n * den := Nat.mul_le_mul_right den less
      rw [Nat.succ_mul] at next
      omega
    · rcases Nat.lt_or_eq_of_le below with under | same
      · exact .inl under
      · exact .inr ⟨same, tie (.inl same)⟩
  · rintro bound
    by_contra beyond
    have next : (n + 1) * den ≤ m * den := Nat.mul_le_mul_right den (Nat.lt_of_not_le beyond)
    rw [Nat.succ_mul] at next
    rcases bound with under | ⟨same, even⟩
    · omega
    · -- Half-way above an even number only an even one could be taken, and the next one is odd.
      have last : m * den = (n + 1) * den := by
        rw [Nat.succ_mul]
        omega
      obtain rfl := Nat.eq_of_mul_eq_mul_right positive last
      have even' := tie (.inr (by rw [last, Nat.succ_mul]; omega))
      rw [Nat.even_add_one] at even'
      exact even' even

/-- An error of at most half a unit is the least one, and a smaller one is the least at one place. -/
theorem NearestMultiple.of_error {unit q : ℚ} {n : ℕ} (positive : 0 < unit)
    (error : |q - n * unit| ≤ unit / 2) (tie : |q - n * unit| = unit / 2 → Even n) :
    NearestMultiple unit q n := by
  have apart : ∀ k : ℤ, k ≠ n → unit ≤ |q - k * unit| + |q - n * unit| := fun k other => by
    have one : (1 : ℚ) ≤ |(k : ℚ) - n| := by
      exact_mod_cast Int.one_le_abs (sub_ne_zero.2 other)
    calc unit ≤ |(k : ℚ) - n| * unit := le_mul_of_one_le_left positive.le one
      _ = |(q - n * unit) - (q - k * unit)| := by
        rw [← abs_of_pos positive, ← abs_mul, abs_of_pos positive]
        congr 1
        ring
      _ ≤ |q - n * unit| + |q - k * unit| := abs_sub _ _
      _ = _ := add_comm _ _
  constructor
  · intro k
    by_cases same : k = n
    · rw [same, Int.cast_natCast]
    · linarith [apart k same]
  · intro k other equal
    have wide := apart k other
    exact tie (le_antisymm error (by linarith))

theorem nearestMultiple_roundHalfEven (num : Nat) {den : Nat} (positive : 0 < den) {unit : ℚ}
    (unitPositive : 0 < unit) :
    NearestMultiple unit (num / den * unit) (roundHalfEven num den) := by
  have denPositive : (0 : ℚ) < den := Nat.cast_pos.2 positive
  obtain ⟨below, above, tie⟩ := error_roundHalfEven num positive
  generalize roundHalfEven num den = n at below above tie ⊢
  have error : (num : ℚ) / den * unit - n * unit = (2 * num - 2 * (n * den)) / den * (unit / 2) := by
    field_simp
  have size : |(num : ℚ) / den * unit - n * unit| =
      |(2 * num - 2 * (n * den) : ℚ)| / den * (unit / 2) := by
    rw [error, abs_mul, abs_div, abs_of_pos denPositive, abs_of_pos (half_pos unitPositive)]
  refine .of_error unitPositive ?_ fun half => tie ?_
  · have below' : (2 * num : ℚ) ≤ 2 * (n * den) + den := by exact_mod_cast below
    have above' : (2 * (n * den) : ℚ) ≤ 2 * num + den := by exact_mod_cast above
    have within : |(2 * num - 2 * (n * den) : ℚ)| ≤ den := abs_le.2 ⟨by linarith, by linarith⟩
    rw [size]
    exact mul_le_of_le_one_left (half_pos unitPositive).le ((div_le_one denPositive).2 within)
  · rw [size, mul_eq_right₀ (half_pos unitPositive).ne', div_eq_one_iff_eq denPositive.ne'] at half
    rcases (abs_eq denPositive.le).1 half with high | low
    · left
      have : (2 * num : ℚ) = 2 * (n * den) + den := by linarith
      exact_mod_cast this
    · right
      have : (2 * (n * den) : ℚ) = 2 * num + den := by linarith
      exact_mod_cast this

/-! ## Numerals -/

/-- A decimal numeral with two decimals. -/
@[ext]
structure Centesimal where
  negative : Bool
  whole : List Char
  tenth : Char
  hundredth : Char

namespace Centesimal

def text (m : Centesimal) : List Char :=
  (if m.negative then ['-'] else []) ++ (m.whole ++ ['.', m.tenth, m.hundredth])

def magnitude (m : Centesimal) : ℚ :=
  (Nat.ofDigitChars 10 (m.whole ++ [m.tenth, m.hundredth]) 0 : ℕ) / 100

def toRat (m : Centesimal) : ℚ := if m.negative then -m.magnitude else m.magnitude

/-- Nothing but digits, at least one before the point, and no zero that could be left out. -/
structure Valid (m : Centesimal) : Prop where
  nonempty : m.whole ≠ []
  whole : ∀ c ∈ m.whole, c.isDigit = true
  tenth : m.tenth.isDigit = true
  hundredth : m.hundredth.isDigit = true
  canonical : ∀ rest, m.whole = '0' :: rest → rest = []

theorem eq_of_text {m m' : Centesimal} (valid : m.Valid) (valid' : m'.Valid)
    (same : m.text = m'.text) : m = m' := by
  have unsigned {m : Centesimal} (valid : m.Valid) (rest rest' : List Char) :
      m.whole ++ rest ≠ '-' :: rest' := fun signed => by
    cases first : m.whole with
    | nil => exact valid.nonempty first
    | cons c cs =>
      have digit := valid.whole c (first ▸ List.mem_cons_self)
      rw [first] at signed
      obtain rfl : c = '-' := (List.cons.inj signed).1
      exact absurd digit (by decide)
  have signs : m.negative = m'.negative := by
    simp only [text] at same
    cases left : m.negative <;> cases right : m'.negative
    · rfl
    · rw [left, right] at same
      exact absurd same (unsigned valid _ _)
    · rw [left, right] at same
      exact absurd same.symm (unsigned valid' _ _)
    · rfl
  simp only [text, signs, List.append_cancel_left_eq] at same
  obtain ⟨wholes, decimals⟩ := List.append_inj' same rfl
  obtain ⟨tenths, hundredths⟩ : m.tenth = m'.tenth ∧ m.hundredth = m'.hundredth := by
    simpa using decimals
  exact Centesimal.ext signs wholes tenths hundredths

/-- The numeral of so many hundredths. -/
def ofHundredths (negative : Bool) (n : Nat) : Centesimal where
  negative := negative
  whole := Nat.toDigits 10 (n / 100)
  tenth := (n / 10 % 10).digitChar
  hundredth := (n % 10).digitChar

theorem valid_ofHundredths (negative : Bool) (n : Nat) : (ofHundredths negative n).Valid where
  nonempty := Nat.toDigits_ne_nil
  whole _ := isDigit_of_mem_toDigits
  tenth := Nat.isDigit_digitChar.trans (decide_eq_true (Nat.mod_lt _ (by decide)))
  hundredth := Nat.isDigit_digitChar.trans (decide_eq_true (Nat.mod_lt _ (by decide)))
  canonical := toDigits_canonical _

theorem magnitude_ofHundredths (negative : Bool) (n : Nat) :
    (ofHundredths negative n).magnitude = n / 100 := by
  have digit (k : Nat) : (k % 10).digitChar.toNat - '0'.toNat = k % 10 :=
    Nat.toNat_digitChar_sub_48_of_lt_ten (Nat.mod_lt _ (by decide))
  have parts : 10 * (10 * (n / 100) + n / 10 % 10) + n % 10 = n := by omega
  simp only [magnitude, ofHundredths]
  rw [Nat.ofDigitChars_append, Nat.ofDigitChars_ten_toDigits, Nat.ofDigitChars_cons,
    Nat.ofDigitChars_cons, Nat.ofDigitChars_nil, digit, digit, parts]

theorem text_ofHundredths (negative : Bool) (n : Nat) :
    (ofHundredths negative n).text =
      (if negative then ['-'] else []) ++ (hundredthsText n).toList := by
  have digit (k : Nat) : Nat.toDigits 10 (k % 10) = [(k % 10).digitChar] :=
    Nat.toDigits_of_lt_base (Nat.mod_lt _ (by decide))
  simp only [text, ofHundredths, hundredthsText, String.toList_append, Nat.toString_eq_repr,
    Nat.toList_repr, digit, List.append_assoc]
  rfl

end Centesimal

/-! ## A double with two decimals -/

namespace Binary64

/-- The numeral that `twoDecimals` writes. -/
def centesimal (x : Binary64) : Centesimal := .ofHundredths x.isNegative x.hundredths

theorem toList_twoDecimals (x : Binary64) : (twoDecimals x).toList = x.centesimal.text := by
  rw [twoDecimals, String.toList_append, centesimal, Centesimal.text_ofHundredths]
  cases x.isNegative <;> rfl

theorem nearest_hundredths (x : Binary64) :
    NearestMultiple (1 / 100) |x.toRat| x.hundredths := by
  have positive : (0 : ℚ) < unitsOfOne := Nat.cast_pos.2 unitsOfOne_pos
  have value : |x.toRat| = (x.units * 100 : Nat) / unitsOfOne * (1 / 100) := by
    rw [toRat_eq_scaled, abs_div, abs_of_pos positive, ← natAbs_scaled, Nat.cast_mul,
      Nat.cast_natAbs, Int.cast_abs]
    field_simp
    norm_num
  rw [value]
  exact nearestMultiple_roundHalfEven _ unitsOfOne_pos (by norm_num)

theorem hundredths_mono {x y : Binary64} (le : x.units ≤ y.units) : x.hundredths ≤ y.hundredths :=
  roundHalfEven_mono (Nat.mul_le_mul_right 100 le) _

end Binary64
end FleetWatch
