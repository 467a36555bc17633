import FleetWatch.Number.Binary64
import Mathlib.Data.Rat.Cast.Order
import Mathlib.Tactic.FieldSimp
import Mathlib.Tactic.NormNum
import Mathlib.Tactic.Ring

/-!
# The value of a double

The rational number that a finite double is, by its sign, exponent and fraction, and which doubles
are the whole numbers of 64 bits.

* `Binary64.toRat_eq_scaled`: the count of units, by which doubles are compared, is their value.
* `Binary64.isUnsigned_iff`, `Binary64.toNat_toUInt64`: a double that is a whole number of 64 bits is
  known as one and converted exactly.
* `Binary64.le_units_of_two_pow_le`: rounding never takes a whole number below a power of two.
-/

namespace FleetWatch
namespace Binary64

def toRat (x : Binary64) : ℚ :=
  let exponent := x.magnitudeBits / fractionCount
  let fraction := x.magnitudeBits % fractionCount
  let magnitude : ℚ :=
    if exponent = 0 then fraction / 2 ^ 52 * 2 ^ (-1022 : ℤ)
    else (1 + fraction / 2 ^ 52) * 2 ^ ((exponent : ℤ) - 1023)
  if x.isNegative then -magnitude else magnitude

/-! ## Units -/

theorem unitsOfOne_pos : 0 < unitsOfOne := by decide +kernel

-- The exponent stays a variable, since the power is too large to be evaluated outside the kernel.
theorem unitsOfOne_eq {e : Nat} (exponent : e = 1074) : unitsOfOne = 2 ^ e := by
  subst exponent
  decide +kernel

theorem cast_unitsOfOne : (unitsOfOne : ℚ) = 2 ^ (1074 : ℤ) := by
  obtain ⟨e, exponent⟩ : ∃ e : Nat, e = 1074 := ⟨_, rfl⟩
  rw [unitsOfOne_eq exponent, Nat.cast_pow, Nat.cast_ofNat, ← zpow_natCast, exponent,
    Nat.cast_ofNat]

theorem cast_fractionCount : (fractionCount : ℚ) = 2 ^ (52 : ℤ) := by
  rw [show fractionCount = 2 ^ 52 from rfl, Nat.cast_pow, Nat.cast_ofNat, ← zpow_natCast,
    Nat.cast_ofNat]

theorem unitsOfBits_eq (magnitude : Nat) :
    (unitsOfBits magnitude : ℚ) = unitsOfOne *
      if magnitude / fractionCount = 0 then
        (magnitude % fractionCount : Nat) / 2 ^ 52 * (2 : ℚ) ^ (-1022 : ℤ)
      else (1 + (magnitude % fractionCount : Nat) / 2 ^ 52) *
        (2 : ℚ) ^ (((magnitude / fractionCount : Nat) : ℤ) - 1023) := by
  have two : (2 : ℚ) ≠ 0 := two_ne_zero
  have digits : (2 : ℚ) ^ 52 = 2 ^ (52 : ℤ) := (zpow_natCast (2 : ℚ) 52).symm
  simp only [unitsOfBits]
  rw [cast_unitsOfOne, digits]
  generalize magnitude % fractionCount = fraction
  split
  · have units : (2 : ℚ) ^ (1074 : ℤ) = 2 ^ (52 : ℤ) * 2 ^ (1022 : ℤ) := by
      rw [← zpow_add₀ two]
      rfl
    rw [units, zpow_neg]
    field_simp
  · next normal =>
    obtain ⟨e, exponent⟩ := Nat.exists_eq_succ_of_ne_zero normal
    have units : (2 : ℚ) ^ (1074 : ℤ) * 2 ^ (((e + 1 : Nat) : ℤ) - 1023) = 2 ^ (52 : ℤ) * 2 ^ (e : ℤ) := by
      rw [← zpow_add₀ two, ← zpow_add₀ two]
      congr 1
      push_cast
      ring
    rw [exponent, Nat.succ_eq_add_one, Nat.add_sub_cancel, mul_left_comm, units]
    push_cast [cast_fractionCount, Nat.pow_eq, ← zpow_natCast]
    field_simp

theorem toRat_eq_scaled (x : Binary64) : x.toRat = x.scaled / unitsOfOne := by
  have positive : (unitsOfOne : ℚ) ≠ 0 := Nat.cast_ne_zero.2 unitsOfOne_pos.ne'
  have units := unitsOfBits_eq x.magnitudeBits
  rw [eq_div_iff positive]
  simp only [toRat, scaled, Binary64.units]
  split
  · rw [Int.cast_neg, Int.cast_natCast, units]
    ring
  · rw [Int.cast_natCast, units]
    ring

theorem toRat_eq_nat_iff (x : Binary64) (n : Nat) : x.toRat = n ↔ x.scaled = n * unitsOfOne := by
  have positive : (unitsOfOne : ℚ) ≠ 0 := Nat.cast_ne_zero.2 unitsOfOne_pos.ne'
  rw [toRat_eq_scaled, div_eq_iff positive]
  exact_mod_cast Iff.rfl

theorem toRat_nonneg_iff (x : Binary64) : 0 ≤ x.toRat ↔ 0 ≤ x.scaled := by
  have positive : (0 : ℚ) < unitsOfOne := Nat.cast_pos.2 unitsOfOne_pos
  rw [toRat_eq_scaled, le_div_iff₀ positive, zero_mul, Int.cast_nonneg_iff]

/-! ## Rounding -/

theorem div_le_roundHalfEven (num den : Nat) : num / den ≤ roundHalfEven num den := by
  simp only [roundHalfEven]
  split
  · exact Nat.le_refl _
  · split
    · exact Nat.le_succ _
    · exact Nat.le_add_right _ _

theorem le_unitsOfBits {magnitude exponent : Nat}
    (le : (exponent + 1) * fractionCount ≤ magnitude) :
    fractionCount * 2 ^ exponent ≤ unitsOfBits magnitude := by
  have top : exponent + 1 ≤ magnitude / fractionCount :=
    (Nat.le_div_iff_mul_le (by decide)).2 le
  have normal : magnitude / fractionCount ≠ 0 := by omega
  simp only [unitsOfBits, if_neg normal, Nat.pow_eq]
  exact Nat.mul_le_mul (Nat.le_add_right _ _) (Nat.pow_le_pow_right (by decide) (by omega))

theorem le_units_of_two_pow_le {n k : Nat} (finite : k ≤ 1024) (le : 2 ^ k ≤ n) :
    2 ^ k * unitsOfOne ≤ unitsOfBits (magnitudeOfRatio n 1) := by
  obtain ⟨e, exponent⟩ : ∃ e : Nat, e = 1074 := ⟨_, rfl⟩
  have unit := unitsOfOne_eq exponent
  have positive : n * unitsOfOne ≠ 0 := by
    have := Nat.two_pow_pos k
    exact Nat.mul_ne_zero (by omega) unitsOfOne_pos.ne'
  have digits : k + e ≤ (n * unitsOfOne).log2 := by
    rw [Nat.le_log2 positive, Nat.pow_add, unit]
    exact Nat.mul_le_mul_right _ le
  obtain ⟨excess, log⟩ : ∃ excess, (n * unitsOfOne).log2 = 52 + excess :=
    Nat.exists_eq_add_of_le (by omega)
  -- The significand keeps its leading digit, which stands for one more exponent.
  have leading : fractionCount ≤ roundHalfEven (n * unitsOfOne) (1 * Nat.pow 2 excess) := by
    refine Nat.le_trans ?_ (div_le_roundHalfEven _ _)
    rw [Nat.one_mul, Nat.pow_eq, Nat.le_div_iff_mul_le (Nat.two_pow_pos excess),
      show fractionCount = 2 ^ 52 from rfl, ← Nat.pow_add, ← log]
    exact Nat.log2_self_le positive
  have magnitude : (k + 1022 + 1) * fractionCount ≤ magnitudeOfRatio n 1 := by
    simp only [magnitudeOfRatio, Nat.div_one, log, show 52 + excess + 1 - 53 = excess by omega]
    refine Nat.le_min.2 ⟨Nat.mul_le_mul_right _ (by omega), ?_⟩
    calc (k + 1022 + 1) * fractionCount ≤ (excess + 1) * fractionCount :=
          Nat.mul_le_mul_right _ (by omega)
      _ = excess * fractionCount + fractionCount := Nat.succ_mul _ _
      _ ≤ _ := Nat.add_le_add_left leading _
  calc 2 ^ k * unitsOfOne = fractionCount * 2 ^ (k + 1022) := by
        have same : k + e = 52 + (k + 1022) := by omega
        rw [unit, show fractionCount = 2 ^ 52 from rfl, ← Nat.pow_add, ← Nat.pow_add, same]
    _ ≤ unitsOfBits (magnitudeOfRatio n 1) := le_unitsOfBits magnitude

/-! ## Fields of a rounded number -/

theorem magnitudeOfRatio_lt (num den : Nat) : magnitudeOfRatio num den < signBit :=
  Nat.lt_of_le_of_lt (Nat.min_le_left _ _) (by decide)

theorem toNat_bits_ofFields {magnitude : Nat} (negative : Bool) (bounded : magnitude < signBit) :
    (ofFields negative magnitude).bits.toNat = (if negative then signBit else 0) + magnitude := by
  have sign : signBit = 2 ^ 63 := rfl
  rw [ofFields, Nat.mod_eq_of_lt bounded]
  refine UInt64.toNat_ofNat_of_lt' ?_
  rw [UInt64.size]
  split <;> omega

theorem isNegative_ofFields (negative : Bool) {magnitude : Nat} (bounded : magnitude < signBit) :
    (ofFields negative magnitude).isNegative = negative := by
  rw [isNegative, toNat_bits_ofFields negative bounded]
  cases negative with
  | false => simpa using bounded
  | true => simp

theorem magnitudeBits_ofFields (negative : Bool) {magnitude : Nat} (bounded : magnitude < signBit) :
    (ofFields negative magnitude).magnitudeBits = magnitude := by
  rw [magnitudeBits, toNat_bits_ofFields negative bounded]
  cases negative with
  | false => simpa using Nat.mod_eq_of_lt bounded
  | true => simpa using Nat.mod_eq_of_lt bounded

theorem isNegative_ofRatio (negative : Bool) (num den : Nat) :
    (ofRatio negative num den).isNegative = negative :=
  isNegative_ofFields negative (magnitudeOfRatio_lt num den)

theorem magnitudeBits_ofRatio (negative : Bool) (num den : Nat) :
    (ofRatio negative num den).magnitudeBits = magnitudeOfRatio num den :=
  magnitudeBits_ofFields negative (magnitudeOfRatio_lt num den)

theorem magnitudeBits_lt (x : Binary64) : x.magnitudeBits < signBit :=
  Nat.mod_lt _ (by decide)

theorem isNegative_neg (x : Binary64) : x.neg.isNegative = !x.isNegative :=
  isNegative_ofFields _ x.magnitudeBits_lt

theorem units_neg (x : Binary64) : x.neg.units = x.units :=
  congrArg unitsOfBits (magnitudeBits_ofFields _ x.magnitudeBits_lt)

theorem scaled_ofInt (i : Int) :
    (ofInt i).scaled =
      if i < 0 then -(unitsOfBits (magnitudeOfRatio i.natAbs 1) : Int)
      else unitsOfBits (magnitudeOfRatio i.natAbs 1) := by
  simp only [scaled, units, ofInt, isNegative_ofRatio, magnitudeBits_ofRatio, decide_eq_true_eq]

theorem scaled_ofInt_neg {i : Int} (negative : i < 0) : (ofInt i).scaled < 0 := by
  have one : 2 ^ 0 ≤ i.natAbs := by
    rw [pow_zero]
    omega
  have units := le_units_of_two_pow_le (by decide) one
  have positive := unitsOfOne_pos
  rw [scaled_ofInt, if_pos negative]
  omega

theorem le_scaled_ofInt {i : Int} {k : Nat} (finite : k ≤ 1024) (le : ((2 ^ k : Nat) : Int) ≤ i) :
    ((2 ^ k * unitsOfOne : Nat) : Int) ≤ (ofInt i).scaled := by
  have power := Nat.two_pow_pos k
  have natural : 2 ^ k ≤ i.natAbs := by omega
  have units := le_units_of_two_pow_le finite natural
  rw [scaled_ofInt, if_neg (by omega)]
  exact Int.ofNat_le.2 units

/-! ## Whole numbers of 64 bits -/

theorem not_isNaN_of_isFinite {x : Binary64} (finite : x.isFinite = true) : x.isNaN = false := by
  simp only [isFinite, isNaN, decide_eq_true_eq, decide_eq_false_iff_not] at finite ⊢
  omega

theorem zero_le_iff {x : Binary64} (finite : x.isFinite = true) :
    zero.le x = true ↔ 0 ≤ x.scaled := by
  have number : zero.isNaN = false := by decide
  have scaled : zero.scaled = 0 := by decide
  simp [le, number, scaled, not_isNaN_of_isFinite finite]

theorem natAbs_scaled (x : Binary64) : x.scaled.natAbs = x.units := by
  simp only [scaled]
  split
  · rw [Int.natAbs_neg, Int.natAbs_natCast]
  · exact Int.natAbs_natCast _

theorem isWhole_iff (x : Binary64) :
    0 ≤ x.scaled ∧ x.isWhole = true ↔ ∃ n : Nat, x.scaled = n * unitsOfOne := by
  simp only [isWhole, decide_eq_true_eq, ← Nat.dvd_iff_mod_eq_zero]
  constructor
  · rintro ⟨nonneg, n, multiple⟩
    refine ⟨n, ?_⟩
    rw [← Int.natAbs_of_nonneg nonneg, natAbs_scaled, multiple, Int.natCast_mul, Int.mul_comm]
  · rintro ⟨n, multiple⟩
    rw [← Int.natCast_mul] at multiple
    refine ⟨by rw [multiple]; exact Int.natCast_nonneg _, n, ?_⟩
    rw [← natAbs_scaled, multiple, Int.natAbs_natCast, Nat.mul_comm]

/-- The bound of the unsigned numbers, itself no number of 64 bits, is a double. -/
theorem scaled_bound : (ofNat (UInt64.size - 1)).scaled = (UInt64.size * unitsOfOne : Nat) := by
  decide +kernel

theorem lt_bound_iff {x : Binary64} (finite : x.isFinite = true) :
    x.lt (ofNat (UInt64.size - 1)) = true ↔ x.scaled < (UInt64.size * unitsOfOne : Nat) := by
  have number : (ofNat (UInt64.size - 1)).isNaN = false := by decide +kernel
  simp only [lt, number, scaled_bound, not_isNaN_of_isFinite finite, Bool.not_false,
    Bool.true_and, decide_eq_true_eq]

theorem isUnsigned_iff (x : Binary64) :
    x.isUnsigned = true ↔
      x.isFinite = true ∧ ∃ n : Nat, n < UInt64.size ∧ x.scaled = n * unitsOfOne := by
  have unit : (0 : Int) < unitsOfOne := Int.natCast_pos.2 unitsOfOne_pos
  simp only [isUnsigned, Bool.and_eq_true]
  constructor
  · rintro ⟨⟨⟨finite, nonneg⟩, whole⟩, below⟩
    obtain ⟨n, multiple⟩ := (isWhole_iff x).1 ⟨(zero_le_iff finite).1 nonneg, whole⟩
    have below := (lt_bound_iff finite).1 below
    rw [multiple, Int.natCast_mul] at below
    exact ⟨finite, n, Int.ofNat_lt.1 (Int.lt_of_mul_lt_mul_right below unit.le), multiple⟩
  · rintro ⟨finite, n, bounded, multiple⟩
    obtain ⟨nonneg, whole⟩ := (isWhole_iff x).2 ⟨n, multiple⟩
    refine ⟨⟨⟨finite, (zero_le_iff finite).2 nonneg⟩, whole⟩, (lt_bound_iff finite).2 ?_⟩
    rw [multiple, Int.natCast_mul]
    exact Int.mul_lt_mul_of_pos_right (Int.ofNat_lt.2 bounded) unit

theorem toNat_toUInt64 {x : Binary64} {n : Nat} (finite : x.isFinite = true)
    (bounded : n < UInt64.size) (multiple : x.scaled = n * unitsOfOne) :
    x.toUInt64.toNat = n := by
  have quotient : x.units / unitsOfOne = n := by
    rw [← natAbs_scaled, multiple, ← Int.natCast_mul, Int.natAbs_natCast,
      Nat.mul_div_cancel n unitsOfOne_pos]
  simp only [toUInt64, not_isNaN_of_isFinite finite, Bool.false_or, quotient]
  split
  · next negative =>
    -- Only the negative zero is left.
    have nonneg : 0 ≤ x.scaled := ((isWhole_iff x).2 ⟨n, multiple⟩).1
    have units : x.units = 0 := by
      rw [scaled, if_pos negative] at nonneg
      omega
    rw [units, Nat.zero_div] at quotient
    exact quotient
  · rw [Nat.min_eq_left (by omega)]
    exact UInt64.toNat_ofNat_of_lt' bounded

end Binary64
end FleetWatch
