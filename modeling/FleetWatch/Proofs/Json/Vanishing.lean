import FleetWatch.Proofs.Json.Magnitude
import FleetWatch.Proofs.Latency.Bands

/-!
# Literals that vanish

A literal whose decimal is too small for a double is read as a zero.  Below `10 ^ -324` every one is,
and from `10 ^ -323` on none is, whatever digits are forgotten and however often the reader rounds.

* `Scientific.Rounds.units_of_small`, `Scientific.Rounds.units_pos`: the last step, for every count
  of digits that the reader keeps.
* `Literal.decimal_le`, `Literal.pow_le_decimal`: the digits that are kept keep every power of ten.
* `Literal.read_of_negative`: what a literal with a minus sign is read as.
-/

namespace FleetWatch

namespace Binary64

/-! ## Quotients that are zero -/

theorem magnitudeOfRatio_eq_zero_iff (num : Nat) {den : Nat} (positive : 0 < den) :
    magnitudeOfRatio num den = 0 ↔ 2 * (num * unitsOfOne) ≤ den := by
  have infinite : 0 < infinityBits := by decide
  have fractions : 0 < fractionCount := by decide
  rw [magnitudeOfRatio_eq, ← Nat.le_zero, min_le_iff, or_iff_right (Nat.not_le.2 infinite)]
  by_cases long : excess num den = 0
  · rw [long, Nat.zero_mul, Nat.zero_add, Nat.pow_zero, Nat.mul_one, roundHalfEven_le_iff _ positive]
    simp [← Nat.le_iff_lt_or_eq]
  · have large : den ≤ num * unitsOfOne := by
      by_contra small
      rw [excess, Nat.div_eq_of_lt (Nat.lt_of_not_le small), Nat.log2_zero] at long
      exact long rfl
    have some := Nat.mul_pos (Nat.pos_of_ne_zero long) fractions
    omega

theorem units_eq_zero_iff (x : Binary64) : x.units = 0 ↔ x.magnitudeBits = 0 :=
  unitsOfBits_strictMono.injective.eq_iff' rfl

theorem units_div_eq_zero_iff (x : Binary64) {y : Binary64} (positive : 0 < y.units) :
    (x.div y).units = 0 ↔ 2 * (x.units * unitsOfOne) ≤ y.units := by
  rw [units_eq_zero_iff, div, magnitudeBits_ofRatio, magnitudeOfRatio_eq_zero_iff _ positive]

theorem units_div_mono {x x' : Binary64} (le : x.units ≤ x'.units) (y : Binary64) :
    (x.div y).units ≤ (x'.div y).units := by
  rw [units, units, div, div, magnitudeBits_ofRatio, magnitudeBits_ofRatio]
  exact unitsOfBits_strictMono.monotone (magnitudeOfRatio_mono le _)

theorem units_mul_pos {x y : Binary64} (one : unitsOfOne ≤ x.units) (one' : unitsOfOne ≤ y.units) :
    0 < (x.mul y).units := by
  have unit := unitsOfOne_pos
  refine Nat.pos_of_ne_zero fun zero => ?_
  rw [units_eq_zero_iff, mul, magnitudeBits_ofRatio,
    magnitudeOfRatio_eq_zero_iff _ (Nat.mul_pos unit unit)] at zero
  have product : unitsOfOne * unitsOfOne * 1 ≤ x.units * y.units * unitsOfOne :=
    Nat.mul_le_mul (Nat.mul_le_mul one one') unit
  have square := Nat.mul_pos unit unit
  omega

end Binary64

namespace JsonNumber

/-! ## The last step -/

theorem units_one : (Binary64.ofNat 1).units = Binary64.unitsOfOne := by decide +kernel

theorem ofNat_zero : Binary64.ofNat 0 = Binary64.zero := by decide +kernel

theorem one_le_units_ofNat {n : Nat} (pos : 0 < n) : Binary64.unitsOfOne ≤ (Binary64.ofNat n).units :=
  units_one ▸ Binary64.units_ofNat_mono pos

theorem one_le_units_powerOfTen (k : Nat) : Binary64.unitsOfOne ≤ (powerOfTen k).units :=
  one_le_units_ofNat (Nat.pow_pos (by decide))

theorem units_powerOfTen_pos (k : Nat) : 0 < (powerOfTen k).units :=
  Nat.lt_of_lt_of_le Binary64.unitsOfOne_pos (one_le_units_powerOfTen k)

/-- The two divisions by which an exponent below the table is applied. -/
def divideTwice (n j : Nat) : Binary64 :=
  ((Binary64.ofNat n).div (powerOfTen 308)).div (powerOfTen j)

theorem units_divideTwice_eq_zero_iff (n j : Nat) :
    (divideTwice n j).units = 0 ↔
      2 * (((Binary64.ofNat n).div (powerOfTen 308)).units * Binary64.unitsOfOne) ≤
        (powerOfTen j).units :=
  Binary64.units_div_eq_zero_iff _ (units_powerOfTen_pos j)

/-- A smaller significand and a greater power vanish the sooner. -/
theorem units_divideTwice_of_le {m n i j : Nat} (le : m ≤ n) (le' : i ≤ j)
    (zero : (divideTwice n i).units = 0) : (divideTwice m j).units = 0 := by
  rw [units_divideTwice_eq_zero_iff] at zero ⊢
  have quotient := Binary64.units_div_mono (Binary64.units_ofNat_mono le) (powerOfTen 308)
  exact Nat.le_trans (Nat.mul_le_mul_left 2 (Nat.mul_le_mul_right _ quotient))
    (Nat.le_trans zero (units_powerOfTen_mono le'))

theorem units_divideTwice_small {n j : Nat} (fits : n ≤ maxSignificand)
    (small : n * 10 ^ 16 ≤ 2 * 10 ^ j) : (divideTwice n j).units = 0 := by
  by_cases least : 35 ≤ j
  · have last : (divideTwice maxSignificand 35).units = 0 := by decide +kernel
    exact units_divideTwice_of_le fits least last
  · have table : ∀ i < 35, (divideTwice (2 * 10 ^ i / 10 ^ 16) i).units = 0 := by decide +kernel
    have within : n ≤ 2 * 10 ^ j / 10 ^ 16 := (Nat.le_div_iff_mul_le (by decide)).2 small
    exact units_divideTwice_of_le within (Nat.le_refl j) (table j (Nat.lt_of_not_le least))

theorem units_divideTwice_pos {n j : Nat} (fits : n ≤ maxSignificand) (pos : 0 < n)
    (large : 10 ^ j ≤ n * 10 ^ 15) : 0 < (divideTwice n j).units := by
  have table : ∀ i < 35, (divideTwice (max 1 (10 ^ i / 10 ^ 15)) i).units ≠ 0 := by decide +kernel
  have short : j < 35 := by
    by_contra long
    have power : 10 ^ 35 ≤ 10 ^ j := Nat.pow_le_pow_right (by decide) (Nat.le_of_not_lt long)
    have greatest : maxSignificand * 10 ^ 15 < 10 ^ 35 := by decide
    have product := Nat.mul_le_mul_right (10 ^ 15) fits
    omega
  have least : max 1 (10 ^ j / 10 ^ 15) ≤ n :=
    Nat.max_le.2 ⟨pos, Nat.div_le_of_le_mul (by rwa [Nat.mul_comm])⟩
  refine Nat.pos_of_ne_zero fun zero => table j short ?_
  exact units_divideTwice_of_le least (Nat.le_refl j) zero

namespace Scientific

/-- The ways in which a decimal becomes a double. -/
inductive Rounds (s : Scientific) : Binary64 → Prop
  | zero (none : s.significand = 0) : Rounds s Binary64.zero
  | product {k : Nat} (some : 0 < s.significand) (exponent : s.exponent = k) :
      Rounds s ((Binary64.ofNat s.significand).mul (powerOfTen k))
  | quotient {k : Nat} (some : 0 < s.significand) (exponent : s.exponent = -k) (within : k ≤ 308) :
      Rounds s ((Binary64.ofNat s.significand).div (powerOfTen k))
  | quotients {j : Nat} (some : 0 < s.significand) (exponent : s.exponent = -(j + 308 : Nat)) :
      Rounds s (divideTwice s.significand j)
  | vanished (some : 0 < s.significand) (beyond : s.exponent < -616) : Rounds s Binary64.zero

theorem rounds_of_toDouble? {s : Scientific} {x : Binary64} (read : s.toDouble? = some x) :
    s.Rounds x := by
  simp only [toDouble?] at read
  split at read
  next none =>
    rw [none, ofNat_zero] at read
    obtain rfl := Option.some.inj read
    exact .zero none
  next some =>
    have some := Nat.pos_of_ne_zero some
    split at read
    · cases read
    split at read
    next nonneg =>
      obtain ⟨k, exponent⟩ := Int.eq_ofNat_of_zero_le nonneg
      split at read
      · obtain rfl := Option.some.inj read
        rw [exponent, Int.toNat_natCast]
        exact .product some exponent
      · cases read
    split at read
    · obtain ⟨k, exponent⟩ := Int.exists_eq_neg_ofNat (a := s.exponent) (by omega)
      obtain rfl := Option.some.inj read
      rw [exponent, Int.neg_neg, Int.toNat_natCast]
      exact .quotient some exponent (by omega)
    split at read
    · obtain ⟨k, exponent⟩ := Int.exists_eq_neg_ofNat (a := s.exponent) (by omega)
      obtain ⟨j, rfl⟩ := Nat.exists_eq_add_of_le' (show 308 ≤ k by omega)
      obtain rfl := Option.some.inj read
      rw [show (-s.exponent - 308).toNat = j by omega]
      exact .quotients some exponent
    · obtain rfl := Option.some.inj read
      exact .vanished some (by omega)

theorem Rounds.isNegative {s : Scientific} {x : Binary64} (rounds : s.Rounds x) :
    x.isNegative = false := by
  have positive (n : Nat) : (Binary64.ofNat n).isNegative = false := Binary64.isNegative_ofRatio ..
  have power (k : Nat) : (powerOfTen k).isNegative = false := positive _
  cases rounds with
  | zero => decide
  | product => rw [Binary64.mul, Binary64.isNegative_ofRatio, positive, power]; rfl
  | quotient => rw [Binary64.div, Binary64.isNegative_ofRatio, positive, power]; rfl
  | quotients =>
    rw [divideTwice, Binary64.div, Binary64.isNegative_ofRatio, power, Binary64.div,
      Binary64.isNegative_ofRatio, positive, power]
    rfl
  | vanished => decide

theorem pow_le_toRat {s : Scientific} (some : 0 < s.significand) :
    (10 : ℚ) ^ s.exponent ≤ s.toRat :=
  le_mul_of_one_le_left (zpow_nonneg (by norm_num) _) (Nat.one_le_cast.2 some)

theorem toRat_lt {s : Scientific} (fits : s.significand ≤ maxSignificand) :
    s.toRat < 10 ^ (20 + s.exponent) := by
  have bound : (s.significand : ℚ) < 10 ^ (20 : ℤ) := by
    exact_mod_cast Nat.lt_of_le_of_lt fits (by decide)
  rw [toRat, zpow_add₀ (by norm_num)]
  exact mul_lt_mul_of_pos_right bound (zpow_pos (by norm_num) _)

theorem toRat_mul (s : Scientific) (k : ℤ) :
    s.toRat * 10 ^ k = s.significand * 10 ^ (s.exponent + k) := by
  rw [toRat, mul_assoc, ← zpow_add₀ (by norm_num)]

theorem two_mul_lt : (2 : ℚ) * 10 ^ (-324 : ℤ) < 10 ^ (-323 : ℤ) := by
  rw [show (-323 : ℤ) = 1 + -324 from rfl, zpow_add₀ (by norm_num), zpow_one]
  exact mul_lt_mul_of_pos_right (by norm_num) (zpow_pos (by norm_num) _)

theorem Rounds.units_of_small {s : Scientific} {x : Binary64} (rounds : s.Rounds x)
    (fits : s.significand ≤ maxSignificand) (small : s.toRat ≤ 2 * 10 ^ (-324 : ℤ)) :
    x.units = 0 := by
  have below (some : 0 < s.significand) : s.exponent < -308 := by
    by_contra within
    have power : (10 : ℚ) ^ (-323 : ℤ) ≤ 10 ^ s.exponent :=
      zpow_le_zpow_right₀ (by norm_num) (by omega)
    exact absurd (power.trans ((pow_le_toRat some).trans small)) (not_le.2 two_mul_lt)
  cases rounds with
  | zero => decide +kernel
  | product some exponent =>
    have := below some
    omega
  | quotient some exponent within =>
    have := below some
    omega
  | @quotients j some exponent =>
    refine units_divideTwice_small fits ?_
    have scaled : s.toRat * 10 ^ (j + 324 : ℤ) ≤ 2 * 10 ^ (-324 : ℤ) * 10 ^ (j + 324 : ℤ) :=
      mul_le_mul_of_nonneg_right small (zpow_nonneg (by norm_num) _)
    rw [toRat_mul, mul_assoc, ← zpow_add₀ (by norm_num), show s.exponent + (j + 324) = (16 : ℕ) by omega,
      show -324 + (j + 324 : ℤ) = j by omega, zpow_natCast, zpow_natCast] at scaled
    exact_mod_cast scaled
  | vanished => decide +kernel

theorem Rounds.units_pos {s : Scientific} {x : Binary64} (rounds : s.Rounds x)
    (fits : s.significand ≤ maxSignificand) (large : 10 ^ (-323 : ℤ) ≤ s.toRat) : 0 < x.units := by
  have positive : (0 : ℚ) < 10 ^ (-323 : ℤ) := zpow_pos (by norm_num) _
  cases rounds with
  | zero none =>
    rw [toRat, none, Nat.cast_zero, zero_mul] at large
    exact absurd large (not_le.2 positive)
  | product some => exact Binary64.units_mul_pos (one_le_units_ofNat some) (one_le_units_powerOfTen _)
  | @quotient k some exponent within =>
    refine Nat.pos_of_ne_zero fun zero => ?_
    rw [Binary64.units_div_eq_zero_iff _ (units_powerOfTen_pos k)] at zero
    have greatest : (powerOfTen 308).units < 2 * (Binary64.unitsOfOne * Binary64.unitsOfOne) := by
      decide +kernel
    have power := units_powerOfTen_mono within
    have one := Nat.mul_le_mul_right Binary64.unitsOfOne (one_le_units_ofNat some)
    omega
  | @quotients j some exponent =>
    refine units_divideTwice_pos fits some ?_
    have scaled : (10 : ℚ) ^ (-323 : ℤ) * 10 ^ (j + 323 : ℤ) ≤ s.toRat * 10 ^ (j + 323 : ℤ) :=
      mul_le_mul_of_nonneg_right large (zpow_nonneg (by norm_num) _)
    rw [toRat_mul, ← zpow_add₀ (by norm_num), show s.exponent + (j + 323) = (15 : ℕ) by omega,
      show -323 + (j + 323 : ℤ) = j by omega, zpow_natCast, zpow_natCast] at scaled
    exact_mod_cast scaled
  | vanished some beyond =>
    have power : (10 : ℚ) ^ (20 + s.exponent) ≤ 10 ^ (-323 : ℤ) :=
      zpow_le_zpow_right₀ (by norm_num) (by omega)
    exact absurd large (not_le.2 ((toRat_lt fits).trans_le power))

end Scientific

/-! ## Powers of ten -/

/-- A number cut off at some digit keeps every power of ten that it reaches. -/
theorem Scientific.pow_le_toRat_of_lt {s : Scientific} (some : 0 < s.significand) {q : ℚ}
    (above : q < (s.significand + 1) * 10 ^ s.exponent) {p : ℤ} (le : 10 ^ p ≤ q) :
    10 ^ p ≤ s.toRat := by
  have positive : (0 : ℚ) < 10 ^ s.exponent := zpow_pos (by norm_num) _
  by_cases low : s.exponent ≤ p
  · obtain ⟨i, rfl⟩ := Int.le.dest low
    rw [zpow_add₀ (by norm_num), zpow_natCast, mul_comm] at le ⊢
    have less : (10 : ℚ) ^ i < s.significand + 1 := lt_of_mul_lt_mul_right (le.trans_lt above) positive.le
    have kept : 10 ^ i ≤ s.significand := Nat.le_of_lt_succ (by exact_mod_cast less)
    exact mul_le_mul_of_nonneg_right (by exact_mod_cast kept) positive.le
  · exact (zpow_le_zpow_right₀ (by norm_num) (by omega)).trans (pow_le_toRat some)

namespace Literal

variable {n : Literal}

/-- Behind a digit before the point that is forgotten others can be kept, but they make up no more
than one of the last digit before it. -/
theorem scientific_le (n : Literal) : n.scientific.toRat ≤ 2 * n.mantissa := by
  obtain ⟨⟨a, i⟩, ⟨b, j⟩, keeps, keeps', same⟩ := n.exists_keeps
  have below := keeps.below
  have below' := keeps'.below
  have fraction := digitsValue_lt n.fractionDigits_digits
  have alone : a = 0 → i = 0 := fun none => (keeps.zero none).2.2
  rw [same, toRat_kept, mantissa_eq, ← mul_div_assoc]
  refine div_le_div_of_nonneg_right ?_ (by positivity)
  simp only [Nat.zero_mul, Nat.zero_add] at below below'
  generalize digitsValue n.whole.bytes = whole at below ⊢
  generalize digitsValue n.fractionDigits = part at below' fraction ⊢
  generalize 10 ^ n.fractionDigits.length = unit at below' fraction ⊢
  have wholes : a * unit * 10 ^ i ≤ whole * unit := by
    rw [Nat.mul_right_comm]
    exact Nat.mul_le_mul_right unit below
  have parts : part * 10 ^ i ≤ whole * unit + part := by
    rcases Nat.eq_zero_or_pos a with none | some
    · rw [alone none, Nat.pow_zero, Nat.mul_one]
      exact Nat.le_add_left _ _
    · calc part * 10 ^ i ≤ a * unit * 10 ^ i :=
            Nat.mul_le_mul_right _ (fraction.le.trans (Nat.le_mul_of_pos_left unit some))
        _ ≤ whole * unit := wholes
        _ ≤ whole * unit + part := Nat.le_add_right _ _
  have kept : b * 10 ^ j * 10 ^ i ≤ 2 * (whole * unit + part) :=
    calc b * 10 ^ j * 10 ^ i ≤ (a * unit + part) * 10 ^ i := Nat.mul_le_mul_right _ below'
      _ = a * unit * 10 ^ i + part * 10 ^ i := Nat.add_mul _ _ _
      _ ≤ 2 * (whole * unit + part) := by omega
  exact_mod_cast kept

theorem pow_le_scientific (n : Literal) {p : ℤ} (le : 10 ^ p ≤ n.mantissa) :
    10 ^ p ≤ n.scientific.toRat := by
  obtain ⟨⟨a, i⟩, ⟨b, j⟩, keeps, keeps', same⟩ := n.exists_keeps
  have fraction := digitsValue_lt n.fractionDigits_digits
  have unit : (0 : ℚ) < 10 ^ n.fractionDigits.length := by positivity
  have below := keeps.below
  have above := keeps.above
  have above' := keeps'.above
  simp only [Nat.zero_mul, Nat.zero_add] at below above above'
  rw [mantissa_eq] at le
  rw [same]
  by_cases exact : i = 0
  · -- All digits before the point are kept, and the two runs are one.
    have whole : digitsValue n.whole.bytes = a := by
      rw [exact, Nat.pow_zero] at below above
      omega
    have some : 0 < b := by
      refine Nat.pos_of_ne_zero fun none => ?_
      obtain ⟨none, others, -⟩ := keeps'.zero none
      simp only at none
      rw [whole, none, others, Nat.zero_mul, Nat.zero_add, Nat.cast_zero, zero_div] at le
      exact absurd le (not_le.2 (zpow_pos (by norm_num) _))
    refine Scientific.pow_le_toRat_of_lt some ?_ le
    have next := toRat_kept (b + 1) i n.fractionDigits.length j
    rw [Scientific.toRat] at next
    push_cast at next
    rw [next, whole, exact, pow_zero, mul_one]
    exact div_lt_div_of_pos_right (by exact_mod_cast above') unit
  · have some : 0 < a := Nat.pos_of_ne_zero fun none => exact (keeps.zero none).2.2
    have kept : 10 ^ p ≤ Scientific.toRat ⟨a, i⟩ := by
      refine Scientific.pow_le_toRat_of_lt some ?_ le
      have less : digitsValue n.whole.bytes * 10 ^ n.fractionDigits.length +
          digitsValue n.fractionDigits < (a + 1) * 10 ^ i * 10 ^ n.fractionDigits.length := by
        have whole := Nat.mul_le_mul_right (10 ^ n.fractionDigits.length) above
        rw [Nat.succ_mul] at whole
        omega
      rw [div_lt_iff₀ unit, zpow_natCast]
      exact_mod_cast less
    refine kept.trans ?_
    have front := Nat.mul_le_mul_right (10 ^ i) keeps'.front
    rw [toRat_kept, Scientific.toRat, zpow_natCast, le_div_iff₀ unit, mul_right_comm]
    exact_mod_cast front

/-! ## The decimal that is read -/

/-- The exponent is one that is counted. -/
def Counted (n : Literal) : Prop :=
  ∀ e, n.exponent = some e → digitsValue e.digits.bytes ≤ maxExponent

/-- What becomes a double. -/
def decimal (n : Literal) : Scientific :=
  match n.exponent with
  | none => n.scientific
  | some e =>
    if digitsValue e.digits.bytes ≤ maxExponent then
      n.scientific.shift e.down (digitsValue e.digits.bytes)
    else ⟨0, 0⟩

theorem decimal_of_counted (counted : n.Counted) :
    n.decimal.significand = n.scientific.significand ∧
      n.decimal.toRat = n.scientific.toRat * 10 ^ n.shift := by
  rw [decimal, shift]
  cases exponent : n.exponent with
  | none => exact ⟨rfl, by simp⟩
  | some e =>
    simp only [if_pos (counted e exponent)]
    exact ⟨rfl, Scientific.toRat_shift _ _ _⟩

theorem decimal_of_not_counted (beyond : ¬ n.Counted) : n.decimal = ⟨0, 0⟩ := by
  simp only [Counted, not_forall] at beyond
  obtain ⟨e, exponent, beyond⟩ := beyond
  simp only [decimal, exponent, if_neg beyond]

theorem significand_decimal_le (n : Literal) : n.decimal.significand ≤ maxSignificand := by
  by_cases counted : n.Counted
  · exact (decimal_of_counted counted).1 ▸ n.significand_scientific_le
  · rw [decimal_of_not_counted counted]
    exact Nat.zero_le _

theorem toRat_nonneg (n : Literal) : 0 ≤ n.toRat :=
  mul_nonneg (Nat.cast_nonneg _) (zpow_nonneg (by norm_num) _)

theorem decimal_le (n : Literal) : n.decimal.toRat ≤ 2 * n.toRat := by
  have power : (0 : ℚ) ≤ 10 ^ n.shift := zpow_nonneg (by norm_num) _
  by_cases counted : n.Counted
  · rw [(decimal_of_counted counted).2, toRat_eq_mantissa, ← mul_assoc]
    exact mul_le_mul_of_nonneg_right n.scientific_le power
  · rw [decimal_of_not_counted counted, Scientific.toRat, Nat.cast_zero, zero_mul]
    exact mul_nonneg zero_le_two n.toRat_nonneg

theorem pow_le_decimal (counted : n.Counted) {p : ℤ} (le : 10 ^ p ≤ n.toRat) :
    10 ^ p ≤ n.decimal.toRat := by
  have power : (0 : ℚ) < 10 ^ n.shift := zpow_pos (by norm_num) _
  have split : (10 : ℚ) ^ p = 10 ^ (p - n.shift) * 10 ^ n.shift := by
    rw [← zpow_add₀ (by norm_num), sub_add_cancel]
  rw [toRat_eq_mantissa, split] at le
  rw [(decimal_of_counted counted).2, split]
  exact mul_le_mul_of_nonneg_right (n.pow_le_scientific (le_of_mul_le_mul_right le power)) power.le

/-! ## What is read -/

theorem rounds_of_value? {x : Binary64} (value : n.value? = some (.float x)) :
    ∃ y, n.decimal.Rounds y ∧ x = if n.negative then y.neg else y := by
  have rounds {s : Scientific} (double : double? n.negative s = some (.float x)) :
      ∃ y, s.Rounds y ∧ x = if n.negative then y.neg else y := by
    obtain ⟨y, read, same⟩ := Option.map_eq_some_iff.1 double
    exact ⟨y, Scientific.rounds_of_toDouble? read, (JsonNumber.float.inj same).symm⟩
  cases exponent : n.exponent with
  | none =>
    have alone : n.decimal = n.scientific := by rw [decimal, exponent]
    rw [alone]
    cases fraction : n.fraction with
    | some f =>
      rw [value?, exponent, fraction] at value
      exact rounds value
    | none =>
      have whole : n.scientific = Scientific.addInteger ⟨0, 0⟩ n.whole.bytes := by
        rw [scientific, fraction]
      simp only [value?, exponent, fraction, whole?, ← whole] at value
      split at value
      · cases value
      split at value
      · cases value
      · exact rounds value
  | some e =>
    have scaled : scaled? n.negative n.scientific e = some (.float x) := by
      cases fraction : n.fraction <;> simpa only [value?, exponent, fraction] using value
    simp only [scaled?] at scaled
    simp only [decimal, exponent]
    split at scaled
    next counted =>
      rw [if_pos counted]
      exact rounds scaled
    next beyond =>
      rw [if_neg beyond]
      split at scaled
      · cases scaled
      · exact rounds scaled

/-- What a literal with a minus sign is read as. -/
theorem read_of_negative {x : JsonNumber} (denotes : n.Denotes x) (negative : n.negative = true) :
    (∃ i : Int, i < 0 ∧ x = .integer i ∧ 1 ≤ n.toRat) ∨ ∃ y, x = .float y.neg ∧ n.decimal.Rounds y := by
  cases denotes with
  | integer fraction exponent notMinusZero =>
    have some := notMinusZero negative
    rw [integer, if_pos negative] at some ⊢
    refine .inl ⟨_, by omega, rfl, ?_⟩
    have one : 1 ≤ digitsValue n.whole.bytes := by omega
    simp only [toRat, fractionDigits, shift, fraction, exponent, Option.elim_none, List.append_nil,
      List.length_nil]
    simpa using one
  | float value =>
    obtain ⟨y, rounds, same⟩ := rounds_of_value? value
    rw [if_pos negative] at same
    exact .inr ⟨y, by rw [same], rounds⟩

theorem read_of_not_negative {x : JsonNumber} (denotes : n.Denotes x) (positive : n.negative = false) :
    (∃ i : Int, 0 ≤ i ∧ x = .integer i) ∨ ∃ y, x = .float y ∧ n.decimal.Rounds y := by
  cases denotes with
  | integer =>
    refine .inl ⟨_, ?_, rfl⟩
    rw [integer, positive, if_neg Bool.false_ne_true]
    exact Int.natCast_nonneg _
  | float value =>
    obtain ⟨y, rounds, same⟩ := rounds_of_value? value
    rw [positive, if_neg Bool.false_ne_true] at same
    exact .inr ⟨y, by rw [same], rounds⟩

theorem units_of_small {y : Binary64} (rounds : n.decimal.Rounds y)
    (small : n.toRat ≤ 10 ^ (-324 : ℤ)) : y.units = 0 :=
  rounds.units_of_small n.significand_decimal_le
    (n.decimal_le.trans (mul_le_mul_of_nonneg_left small zero_le_two))

theorem units_pos {y : Binary64} (rounds : n.decimal.Rounds y) (counted : n.Counted)
    (large : 10 ^ (-323 : ℤ) ≤ n.toRat) : 0 < y.units :=
  rounds.units_pos n.significand_decimal_le (pow_le_decimal counted large)

end Literal

end JsonNumber
end FleetWatch
