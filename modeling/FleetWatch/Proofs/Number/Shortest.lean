import FleetWatch.Number.Shortest
import FleetWatch.Proofs.Number.Order

/-!
# The size of shortest decimals

The shortest decimal of a double lies in the interval of the double, so it is at most half-way to the
next one.

* `Decimal.toRat_le_of_onGrid`: what is found on a grid is not above the interval.
* `toRat_shortestDecimal_le`: below the greatest double, all shortest decimals have one bound.
-/

namespace FleetWatch

theorem roundHalfEven_cases (num den : Nat) :
    roundHalfEven num den = num / den ∨ roundHalfEven num den = num / den + 1 := by
  have low := Binary64.div_le_roundHalfEven num den
  have high := roundHalfEven_le_succ num den
  omega

namespace Decimal

def toRat (d : Decimal) : ℚ := d.digits * 10 ^ d.exponent

theorem toRat_stripZeros (limit : Nat) (d : Decimal) : (stripZeros limit d).toRat = d.toRat := by
  induction limit generalizing d with
  | zero => rfl
  | succ limit ih =>
    rw [stripZeros]
    split
    case isFalse => rfl
    case isTrue zero =>
      have tenfold : (d.digits : ℚ) = (d.digits / 10 : Nat) * 10 := by
        exact_mod_cast (Nat.div_mul_cancel (Nat.dvd_of_mod_eq_zero zero)).symm
      rw [ih, toRat, toRat, tenfold, zpow_add_one₀ (by norm_num)]
      ring

/-! ## Grids -/

theorem quarters_pos : (0 : ℚ) < 4 * Binary64.unitsOfOne :=
  mul_pos (by norm_num) (Nat.cast_pos.2 Binary64.unitsOfOne_pos)

theorem le_of_gridScale {exponent : Int} {d high : Nat}
    (le : d * (gridScale exponent).2 ≤ high * (gridScale exponent).1) :
    (d : ℚ) * 10 ^ exponent ≤ high / (4 * Binary64.unitsOfOne) := by
  rw [le_div_iff₀ quarters_pos]
  simp only [gridScale, Nat.pow_eq] at le
  split at le
  case isTrue nonneg =>
    obtain ⟨k, rfl⟩ := Int.eq_ofNat_of_zero_le nonneg
    have cast : ((d * (10 ^ k * (4 * Binary64.unitsOfOne)) : Nat) : ℚ) ≤ (high * 1 : Nat) :=
      Nat.cast_le.2 le
    push_cast at cast
    calc (d : ℚ) * 10 ^ (k : ℤ) * (4 * Binary64.unitsOfOne)
        = d * (10 ^ k * (4 * Binary64.unitsOfOne)) := by rw [zpow_natCast, mul_assoc]
      _ ≤ high * 1 := cast
      _ = high := mul_one _
  case isFalse negative =>
    obtain ⟨k, exponent⟩ : ∃ k : Nat, exponent = -(k : Int) := ⟨exponent.natAbs, by omega⟩
    have cast : ((d * (4 * Binary64.unitsOfOne) : Nat) : ℚ) ≤ (high * 10 ^ k : Nat) := by
      rw [exponent, Int.neg_neg, Int.toNat_natCast] at le
      exact Nat.cast_le.2 le
    push_cast at cast
    have power : (0 : ℚ) < 10 ^ k := pow_pos (by norm_num) k
    rw [exponent, zpow_neg, zpow_natCast, ← div_eq_mul_inv, div_mul_eq_mul_div, div_le_iff₀ power]
    exact cast

theorem toRat_le_of_onGrid {interval : Interval} {exponent : Int} {d : Nat}
    (found : onGrid interval exponent = some d) :
    (d : ℚ) * 10 ^ exponent ≤ interval.high / (4 * Binary64.unitsOfOne) := by
  refine le_of_gridScale ?_
  have below_high {d up down : Nat} (inside :
      (if interval.closed then
        decide (interval.low * up ≤ d * down) && decide (d * down ≤ interval.high * up)
      else
        decide (interval.low * up < d * down) && decide (d * down < interval.high * up)) = true) :
      d * down ≤ interval.high * up := by
    split at inside
    · exact of_decide_eq_true (Bool.and_eq_true_iff.1 inside).2
    · exact Nat.le_of_lt (of_decide_eq_true (Bool.and_eq_true_iff.1 inside).2)
  simp only [onGrid] at found
  split at found
  · next here next' =>
    cases found
    rcases roundHalfEven_cases (interval.value * (gridScale exponent).1) (gridScale exponent).2 with
      same | same
    · exact same ▸ below_high here
    · exact same ▸ below_high next'
  · next here _ =>
    cases found
    exact below_high here
  · next next' =>
    cases found
    exact below_high next'
  · cases found

theorem toRat_le_of_firstGrid {interval : Interval} {count : Nat} {exponent : Int} {d : Decimal}
    (found : firstGrid interval count exponent = some d) :
    d.toRat ≤ interval.high / (4 * Binary64.unitsOfOne) := by
  induction count generalizing exponent with
  | zero => cases found
  | succ count ih =>
    rw [firstGrid] at found
    split at found
    · next digits onGrid =>
      obtain rfl := Option.some.inj found
      rw [toRat_stripZeros]
      exact toRat_le_of_onGrid onGrid
    · exact ih found

/-- The upper end of an interval is half-way to the next double. -/
theorem Interval.high_ofBits (magnitude : Nat) :
    (ofBits magnitude).high =
      2 * (Binary64.unitsOfBits magnitude + Binary64.unitsOfBits (magnitude + 1)) := by
  rw [Binary64.unitsOfBits_succ]
  simp only [ofBits, Nat.pow_eq]
  ring

/-- Half-way between the two greatest doubles. -/
def bound : Nat := (2 ^ 54 - 3) * 2 ^ 970

theorem high_le_bound {magnitude : Nat} (below : magnitude + 1 < Binary64.infinityBits) :
    (Interval.ofBits magnitude).high ≤ bound * (4 * Binary64.unitsOfOne) := by
  have units := Binary64.unitsOfBits_strictMono.monotone
  have here : magnitude ≤ Binary64.infinityBits - 2 := by omega
  have next' : magnitude + 1 ≤ Binary64.infinityBits - 1 := by omega
  rw [Interval.high_ofBits]
  refine Nat.le_trans (Nat.mul_le_mul_left 2 (Nat.add_le_add (units here) (units next'))) ?_
  decide +kernel

end Decimal

theorem toRat_shortestDecimal_le {x : Binary64} (below : x.magnitudeBits + 1 < Binary64.infinityBits) :
    (shortestDecimal x).toRat ≤ Decimal.bound := by
  have zero : Decimal.toRat ⟨0, 0⟩ ≤ Decimal.bound := by
    simp only [Decimal.toRat, Nat.cast_zero, zero_mul]
    exact Nat.cast_nonneg _
  rw [shortestDecimal]
  split
  · exact zero
  · cases found : Decimal.firstGrid (Decimal.Interval.ofBits x.magnitudeBits) 17
        (Decimal.leadingExponent x.units) with
    | none => exact zero
    | some d =>
      refine le_trans (Decimal.toRat_le_of_firstGrid found) ?_
      rw [div_le_iff₀ Decimal.quarters_pos]
      exact_mod_cast Decimal.high_le_bound below

end FleetWatch
