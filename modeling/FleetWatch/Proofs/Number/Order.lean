import FleetWatch.Proofs.Number.Value

/-!
# Rounding keeps order

Magnitude bits ascend with the numbers that they stand for, and so do the bits that a quotient is
rounded to, also where the significand gains a digit.

* `unitsOfBits_strictMono`, `magnitudeOfRatio_mono`: both directions.
* `le_iff_toRat`, `lt_iff_toRat`: comparing finite doubles is comparing their values.
* `isFinite_mul_of_le`: a product is finite if a greater one is.
-/

namespace FleetWatch

/-! ## Rounding a quotient -/

theorem roundHalfEven_le_succ (num den : Nat) : roundHalfEven num den ≤ num / den + 1 := by
  simp only [roundHalfEven]
  split
  · exact Nat.le_succ _
  · split
    · exact Nat.le_refl _
    · omega

theorem roundHalfEven_mono {num num' : Nat} (le : num ≤ num') (den : Nat) :
    roundHalfEven num den ≤ roundHalfEven num' den := by
  have quotients : num / den ≤ num' / den := Nat.div_le_div_right le
  rcases Nat.lt_or_eq_of_le quotients with less | same
  · exact Nat.le_trans (roundHalfEven_le_succ num den)
      (Nat.le_trans less (Binary64.div_le_roundHalfEven num' den))
  · have remainders : num % den ≤ num' % den := by
      have parts := Nat.div_add_mod num den
      have parts' := Nat.div_add_mod num' den
      rw [same] at parts
      omega
    simp only [roundHalfEven, same]
    generalize num' / den = quotient
    (repeat' split) <;> omega

namespace Binary64

/-! ## Magnitude bits -/

theorem unitsOfBits_fields {exponent fraction : Nat} (bound : fraction < fractionCount) :
    unitsOfBits (fractionCount * exponent + fraction) =
      if exponent = 0 then fraction else (fractionCount + fraction) * 2 ^ (exponent - 1) := by
  have quotient : (fractionCount * exponent + fraction) / fractionCount = exponent := by
    rw [Nat.mul_add_div (by decide), Nat.div_eq_of_lt bound, Nat.add_zero]
  have remainder : (fractionCount * exponent + fraction) % fractionCount = fraction := by
    rw [Nat.mul_add_mod, Nat.mod_eq_of_lt bound]
  simp only [unitsOfBits, quotient, remainder, Nat.pow_eq]

/-- The gap above a number is a unit of its last place. -/
theorem unitsOfBits_succ (magnitude : Nat) :
    unitsOfBits (magnitude + 1) = unitsOfBits magnitude + 2 ^ (magnitude / fractionCount - 1) := by
  have bound : magnitude % fractionCount < fractionCount := Nat.mod_lt _ (by decide)
  have here := @unitsOfBits_fields (magnitude / fractionCount) _ bound
  rw [Nat.div_add_mod] at here
  rw [here]
  conv_lhs => rw [← Nat.div_add_mod magnitude fractionCount]
  generalize magnitude / fractionCount = e, magnitude % fractionCount = f at bound
  obtain next | last : f + 1 < fractionCount ∨ f + 1 = fractionCount :=
    Nat.lt_or_eq_of_le bound
  · rw [Nat.add_assoc, unitsOfBits_fields next]
    cases e with
    | zero => rfl
    | succ e =>
      simp only [Nat.succ_ne_zero, if_false, Nat.add_sub_cancel]
      ring
  · have carried : fractionCount * e + f + 1 = fractionCount * (e + 1) + 0 := by
      rw [Nat.mul_succ, ← last]
      rfl
    rw [carried, unitsOfBits_fields (by decide)]
    cases e with
    | zero => simpa using last.symm
    | succ e =>
      simp only [Nat.succ_ne_zero, if_false, Nat.add_sub_cancel, ← last]
      ring

theorem unitsOfBits_strictMono : StrictMono unitsOfBits := by
  refine strictMono_nat_of_lt_succ fun magnitude => ?_
  rw [unitsOfBits_succ]
  exact Nat.lt_add_of_pos_right (Nat.two_pow_pos _)

/-! ## Magnitude bits of a quotient -/

/-- How many binary digits of a quotient are rounded away. -/
def excess (num den : Nat) : Nat := (num * unitsOfOne / den).log2 + 1 - 53

theorem magnitudeOfRatio_eq (num den : Nat) :
    magnitudeOfRatio num den =
      min infinityBits (excess num den * fractionCount +
        roundHalfEven (num * unitsOfOne) (den * 2 ^ excess num den)) := rfl

theorem significand_le (num den : Nat) :
    roundHalfEven (num * unitsOfOne) (den * 2 ^ excess num den) ≤ 2 * fractionCount := by
  have below : num * unitsOfOne / den < 2 ^ (excess num den + 53) :=
    Nat.lt_of_lt_of_le Nat.lt_log2_self
      (Nat.pow_le_pow_right (by decide) (by rw [excess]; omega))
  have quotient : num * unitsOfOne / (den * 2 ^ excess num den) < 2 ^ 53 := by
    rw [← Nat.div_div_eq_div_mul, Nat.div_lt_iff_lt_mul (Nat.two_pow_pos _), ← Nat.pow_add,
      Nat.add_comm 53]
    exact below
  exact Nat.le_trans (roundHalfEven_le_succ _ _) quotient

theorem le_significand {num den : Nat} (long : 0 < excess num den) :
    fractionCount ≤ roundHalfEven (num * unitsOfOne) (den * 2 ^ excess num den) := by
  refine Nat.le_trans ?_ (div_le_roundHalfEven _ _)
  have digits : (num * unitsOfOne / den).log2 = 52 + excess num den := by
    rw [excess] at long ⊢
    omega
  have positive : num * unitsOfOne / den ≠ 0 := fun zero => by
    rw [zero, Nat.log2_zero] at digits
    omega
  rw [← Nat.div_div_eq_div_mul, Nat.le_div_iff_mul_le (Nat.two_pow_pos _),
    show fractionCount = 2 ^ 52 from rfl, ← Nat.pow_add, ← digits]
  exact Nat.log2_self_le positive

theorem log2_mono {m n : Nat} (le : m ≤ n) : m.log2 ≤ n.log2 := by
  by_cases zero : m = 0
  · rw [zero, Nat.log2_zero]
    exact Nat.zero_le _
  · have positive : n ≠ 0 := by omega
    exact (Nat.le_log2 positive).2 (Nat.le_trans (Nat.log2_self_le zero) le)

theorem excess_mono {num num' : Nat} (le : num ≤ num') (den : Nat) :
    excess num den ≤ excess num' den := by
  have quotients : num * unitsOfOne / den ≤ num' * unitsOfOne / den :=
    Nat.div_le_div_right (Nat.mul_le_mul_right _ le)
  have logs := log2_mono quotients
  simp only [excess]
  omega

theorem magnitudeOfRatio_mono {num num' : Nat} (le : num ≤ num') (den : Nat) :
    magnitudeOfRatio num den ≤ magnitudeOfRatio num' den := by
  rw [magnitudeOfRatio_eq, magnitudeOfRatio_eq]
  refine Nat.le_min.2 ⟨Nat.min_le_left _ _, Nat.le_trans (Nat.min_le_right _ _) ?_⟩
  rcases Nat.lt_or_eq_of_le (excess_mono le den) with less | same
  · -- A longer quotient: the shorter one is at most the least significand of the next exponent.
    calc excess num den * fractionCount + _
        ≤ excess num den * fractionCount + 2 * fractionCount :=
          Nat.add_le_add_left (significand_le num den) _
      _ = (excess num den + 1) * fractionCount + fractionCount := by ring
      _ ≤ excess num' den * fractionCount + fractionCount :=
          Nat.add_le_add_right (Nat.mul_le_mul_right _ less) _
      _ ≤ _ := Nat.add_le_add_left (le_significand (Nat.zero_lt_of_lt less)) _
  · rw [same]
    exact Nat.add_le_add_left (roundHalfEven_mono (Nat.mul_le_mul_right _ le) _) _

/-! ## Numbers -/

theorem scaled_le_iff_toRat (x y : Binary64) : x.scaled ≤ y.scaled ↔ x.toRat ≤ y.toRat := by
  have positive : (0 : ℚ) < unitsOfOne := Nat.cast_pos.2 unitsOfOne_pos
  rw [toRat_eq_scaled, toRat_eq_scaled, div_le_div_iff_of_pos_right positive, Int.cast_le]

variable {x y : Binary64}

theorem le_iff_toRat (finite : x.isFinite = true) (finite' : y.isFinite = true) :
    x.le y = true ↔ x.toRat ≤ y.toRat := by
  simp only [le, not_isNaN_of_isFinite finite, not_isNaN_of_isFinite finite', Bool.not_false,
    Bool.true_and, decide_eq_true_eq, scaled_le_iff_toRat]

theorem lt_iff_toRat (finite : x.isFinite = true) (finite' : y.isFinite = true) :
    x.lt y = true ↔ x.toRat < y.toRat := by
  rw [← not_le, ← scaled_le_iff_toRat, not_le]
  simp only [lt, not_isNaN_of_isFinite finite, not_isNaN_of_isFinite finite', Bool.not_false,
    Bool.true_and, decide_eq_true_eq]

theorem units_mono (nonneg : 0 ≤ x.toRat) (le : x.toRat ≤ y.toRat) : x.units ≤ y.units := by
  rw [toRat_nonneg_iff] at nonneg
  rw [← scaled_le_iff_toRat] at le
  have left := natAbs_scaled x
  have right := natAbs_scaled y
  omega

theorem units_ofNat_mono {n n' : Nat} (le : n ≤ n') : (ofNat n).units ≤ (ofNat n').units := by
  rw [units, units, ofNat, ofNat, magnitudeBits_ofRatio, magnitudeBits_ofRatio]
  exact unitsOfBits_strictMono.monotone (magnitudeOfRatio_mono le 1)

theorem isFinite_mul_of_le {x x' y y' : Binary64} (le : x.units ≤ x'.units)
    (le' : y.units ≤ y'.units) (finite : (x'.mul y').isFinite = true) :
    (x.mul y).isFinite = true := by
  simp only [isFinite, mul, magnitudeBits_ofRatio, decide_eq_true_eq] at finite ⊢
  exact Nat.lt_of_le_of_lt (magnitudeOfRatio_mono (Nat.mul_le_mul le le') _) finite

end Binary64
end FleetWatch
