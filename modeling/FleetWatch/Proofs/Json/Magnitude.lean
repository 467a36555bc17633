import FleetWatch.Proofs.Json.Literal
import FleetWatch.Proofs.Number.Shortest

/-!
# Literals within the range of doubles

A literal is read whenever the decimal that it writes is at most half-way between the two greatest
doubles.  The powers of ten by which the reader multiplies are rounded themselves, and half-way
above the greatest double their error is too great.

* `keeps_keep`: what is kept of a run of digits.
* `Scientific.exists_double`: the last step, for every count of digits that the reader keeps.
* `Literal.exists_value`: the whole literal.
-/

namespace FleetWatch.JsonNumber

/-! ## Significands and powers of ten -/

def Scientific.toRat (s : Scientific) : ℚ := s.significand * 10 ^ s.exponent

/-- The greatest significand that the reader keeps and that is below the bound with this power. -/
def greatest (k : Nat) : Nat := min maxSignificand (Decimal.bound / 10 ^ k)

theorem units_powerOfTen_mono {j k : Nat} (le : j ≤ k) :
    (powerOfTen j).units ≤ (powerOfTen k).units :=
  Binary64.units_ofNat_mono (Nat.pow_le_pow_right (by decide) le)

theorem isFinite_greatest {k : Nat} (within : k < 309) :
    ((Binary64.ofNat (greatest k)).mul (powerOfTen k)).isFinite = true := by
  by_cases least : k ≤ 288
  · have last : ((Binary64.ofNat maxSignificand).mul (powerOfTen 288)).isFinite = true := by
      decide +kernel
    exact Binary64.isFinite_mul_of_le (Binary64.units_ofNat_mono (Nat.min_le_left _ _))
      (units_powerOfTen_mono least) last
  · -- With these powers the bound is below the greatest significand.
    have table : ∀ j < 20, ((Binary64.ofNat (greatest (289 + j))).mul
        (powerOfTen (289 + j))).isFinite = true := by decide +kernel
    obtain ⟨j, rfl⟩ := Nat.exists_eq_add_of_le (Nat.lt_of_not_le least)
    exact table j (by omega)

theorem bound_lt : Decimal.bound < 10 ^ 309 := by decide +kernel

theorem exponent_lt_of_toRat_le {n : Nat} (pos : 0 < n) {exponent : Int}
    (small : (n : ℚ) * 10 ^ exponent ≤ Decimal.bound) : exponent < 309 := by
  by_contra beyond
  have one : (1 : ℚ) ≤ n := Nat.one_le_cast.2 pos
  have power : (10 : ℚ) ^ (309 : ℤ) ≤ 10 ^ exponent := zpow_le_zpow_right₀ (by norm_num) (by omega)
  have bound : (Decimal.bound : ℚ) < 10 ^ (309 : ℤ) := by exact_mod_cast bound_lt
  have product : (10 : ℚ) ^ exponent ≤ n * 10 ^ exponent :=
    le_mul_of_one_le_left (zpow_nonneg (by norm_num) _) one
  exact absurd (power.trans (product.trans small)) (not_le.2 bound)

theorem Scientific.exists_double {s : Scientific} (fits : s.significand ≤ maxSignificand)
    (small : s.toRat ≤ Decimal.bound) : ∃ x, s.toDouble? = some x := by
  obtain ⟨significand, exponent⟩ := s
  simp only [toRat] at fits small
  simp only [toDouble?]
  split
  · exact ⟨_, rfl⟩
  next some =>
    have below := exponent_lt_of_toRat_le (Nat.pos_of_ne_zero some) small
    rw [if_neg (by omega)]
    split
    next nonneg =>
      obtain ⟨k, rfl⟩ := Int.eq_ofNat_of_zero_le nonneg
      have product : significand * 10 ^ k ≤ Decimal.bound := by
        rw [zpow_natCast] at small
        exact_mod_cast small
      have within : significand ≤ greatest k :=
        Nat.le_min.2 ⟨fits, (Nat.le_div_iff_mul_le (Nat.pow_pos (by decide))).2 product⟩
      have finite := Binary64.isFinite_mul_of_le (Binary64.units_ofNat_mono within)
        (Nat.le_refl _) (isFinite_greatest (k := k) (by omega))
      exact ⟨_, if_pos finite⟩
    · split
      · exact ⟨_, rfl⟩
      · split <;> exact ⟨_, rfl⟩

theorem exists_double? (negative : Bool) {s : Scientific} (fits : s.significand ≤ maxSignificand)
    (small : s.toRat ≤ Decimal.bound) : ∃ x, double? negative s = some x := by
  obtain ⟨x, read⟩ := s.exists_double fits small
  exact ⟨_, by rw [double?, read]; rfl⟩

/-! ## Digits that are kept -/

theorem foldl_digits_eq (n : Nat) (ds : Bytes) :
    ds.foldl (fun n d => n * 10 + digitValue d) n = n * 10 ^ ds.length + digitsValue ds := by
  induction ds generalizing n with
  | nil => simp [digitsValue]
  | cons d ds ih =>
    have here : digitsValue (d :: ds) = _ := ih (0 * 10 + digitValue d)
    rw [List.foldl_cons, ih, here, List.length_cons]
    ring

theorem digitsValue_cons (d : UInt8) (ds : Bytes) :
    digitsValue (d :: ds) = digitValue d * 10 ^ ds.length + digitsValue ds := by
  rw [digitsValue, List.foldl_cons, foldl_digits_eq, Nat.zero_mul, Nat.zero_add]

theorem digitsValue_append (ds es : Bytes) :
    digitsValue (ds ++ es) = digitsValue ds * 10 ^ es.length + digitsValue es := by
  rw [digitsValue, List.foldl_append, foldl_digits_eq]
  rfl

/-- The significand with the digits behind it that fit, and how many are forgotten. -/
def keep (n : Nat) : Bytes → Nat × Nat
  | [] => (n, 0)
  | d :: ds => if n * 10 + digitValue d ≤ maxSignificand then keep (n * 10 + digitValue d) ds
    else (n, ds.length + 1)

theorem Scientific.addInteger_eq_keep (s : Scientific) (ds : Bytes) :
    s.addInteger ds = ⟨(keep s.significand ds).1, s.exponent + (keep s.significand ds).2⟩ := by
  induction ds generalizing s with
  | nil => simp [addInteger, keep]
  | cons d ds ih =>
    simp only [addInteger, keep]
    split
    · rw [ih]
    · rfl

theorem Scientific.addFraction_eq_keep (s : Scientific) (ds : Bytes) :
    s.addFraction ds =
      ⟨(keep s.significand ds).1, s.exponent - ds.length + (keep s.significand ds).2⟩ := by
  induction ds generalizing s with
  | nil => simp [addFraction, keep]
  | cons d ds ih =>
    simp only [addFraction, keep]
    split
    · rw [ih]
      congr 1
      simp only [List.length_cons, Nat.cast_add, Nat.cast_one]
      ring
    · simp

theorem digitValue_lt {d : UInt8} (digit : isDigit d = true) : digitValue d < 10 := by
  simp only [isDigit, Bool.and_eq_true, decide_eq_true_eq, UInt8.le_iff_toNat_le] at digit
  have last : ('9'.toUInt8 : UInt8).toNat = 57 := by decide
  rw [digitValue]
  omega

theorem digitsValue_lt {ds : Bytes} (digits : ∀ d ∈ ds, isDigit d = true) :
    digitsValue ds < 10 ^ ds.length := by
  induction ds with
  | nil => decide
  | cons d ds ih =>
    obtain ⟨digit, digits⟩ := List.forall_mem_cons.1 digits
    have first := Nat.mul_le_mul_right (10 ^ ds.length) (Nat.le_of_lt_succ (digitValue_lt digit))
    have rest := ih digits
    rw [digitsValue_cons, List.length_cons, Nat.pow_succ]
    omega

/-- What is kept of a number and the digits behind it, cut off and not rounded. -/
structure Keeps (n : Nat) (ds : Bytes) (kept : Nat × Nat) : Prop where
  front : n * 10 ^ ds.length ≤ kept.1 * 10 ^ kept.2
  below : kept.1 * 10 ^ kept.2 ≤ n * 10 ^ ds.length + digitsValue ds
  above : n * 10 ^ ds.length + digitsValue ds < (kept.1 + 1) * 10 ^ kept.2
  fits : n ≤ maxSignificand → kept.1 ≤ maxSignificand
  zero : kept.1 = 0 → n = 0 ∧ digitsValue ds = 0 ∧ kept.2 = 0

theorem keeps_keep (n : Nat) {ds : Bytes} (digits : ∀ d ∈ ds, isDigit d = true) :
    Keeps n ds (keep n ds) := by
  induction ds generalizing n with
  | nil => exact ⟨by simp [keep], by simp [keep, digitsValue], by simp [keep, digitsValue], id,
      fun zero => ⟨zero, rfl, rfl⟩⟩
  | cons d ds ih =>
    obtain ⟨digit, digits'⟩ := List.forall_mem_cons.1 digits
    have value : (n * 10 + digitValue d) * 10 ^ ds.length + digitsValue ds =
        n * 10 ^ (d :: ds).length + digitsValue (d :: ds) := by
      rw [digitsValue_cons, List.length_cons, Nat.pow_succ]
      ring
    simp only [keep]
    split
    next within =>
      obtain ⟨front, below, above, fits, zero⟩ := ih (n * 10 + digitValue d) digits'
      refine ⟨Nat.le_trans ?_ front, value ▸ below, value ▸ above, fun _ => fits within,
        fun none => ?_⟩
      · rw [List.length_cons, Nat.pow_succ, Nat.mul_comm (10 ^ ds.length), ← Nat.mul_assoc]
        exact Nat.mul_le_mul_right _ (Nat.le_add_right _ _)
      · obtain ⟨none, others, all⟩ := zero none
        rw [digitsValue_cons, others]
        have first : n = 0 ∧ digitValue d = 0 := by omega
        exact ⟨first.1, by rw [first.2, Nat.zero_mul], all⟩
    next beyond =>
      have rest := digitsValue_lt digits
      refine ⟨Nat.le_refl _, Nat.le_add_right _ _, ?_, id, fun none => ?_⟩
      · rw [Nat.succ_mul]
        exact Nat.add_lt_add_left rest _
      · have small := digitValue_lt digit
        have great : 10 ≤ maxSignificand := by decide
        simp only at none
        omega

theorem Scientific.toRat_shift (s : Scientific) (down : Bool) (e : Nat) :
    (s.shift down e).toRat = s.toRat * 10 ^ (if down then -(e : Int) else e) := by
  have ten : (10 : ℚ) ≠ 0 := by norm_num
  cases down with
  | false =>
    simp only [Scientific.shift, Scientific.toRat, Bool.false_eq_true, if_false]
    rw [zpow_add₀ ten, mul_assoc]
  | true =>
    simp only [Scientific.shift, Scientific.toRat, if_true]
    rw [sub_eq_add_neg, zpow_add₀ ten, mul_assoc]

/-! ## The decimal of a literal -/

namespace Literal

def fractionDigits (n : Literal) : Bytes := n.fraction.elim [] (·.bytes)

def shift (n : Literal) : Int :=
  n.exponent.elim 0 fun e =>
    if e.down then -(digitsValue e.digits.bytes : Int) else digitsValue e.digits.bytes

/-- The decimal that a literal writes, without its sign. -/
def toRat (n : Literal) : ℚ :=
  digitsValue (n.whole.bytes ++ n.fractionDigits) * 10 ^ (n.shift - n.fractionDigits.length)

/-- The decimal without its exponent. -/
def mantissa (n : Literal) : ℚ :=
  digitsValue (n.whole.bytes ++ n.fractionDigits) * 10 ^ (-n.fractionDigits.length : Int)

theorem scientific_eq (n : Literal) :
    n.scientific = (Scientific.addInteger ⟨0, 0⟩ n.whole.bytes).addFraction n.fractionDigits := by
  rw [scientific, fractionDigits]
  cases n.fraction <;> rfl

theorem fractionDigits_digits (n : Literal) : ∀ d ∈ n.fractionDigits, isDigit d = true := by
  rw [fractionDigits]
  cases n.fraction with
  | none => exact List.forall_mem_nil _
  | some f => exact f.isDigit_of_mem

theorem mantissa_eq (n : Literal) :
    n.mantissa = (digitsValue n.whole.bytes * 10 ^ n.fractionDigits.length +
      digitsValue n.fractionDigits : Nat) / 10 ^ n.fractionDigits.length := by
  rw [mantissa, digitsValue_append, zpow_neg, zpow_natCast, div_eq_mul_inv]

/-- The two runs of digits that a literal has before its exponent, and what is kept of them. -/
theorem exists_keeps (n : Literal) :
    ∃ whole kept : Nat × Nat, Keeps 0 n.whole.bytes whole ∧
      Keeps whole.1 n.fractionDigits kept ∧
      n.scientific = ⟨kept.1, whole.2 - n.fractionDigits.length + kept.2⟩ := by
  refine ⟨_, _, keeps_keep 0 n.whole.isDigit_of_mem, keeps_keep _ n.fractionDigits_digits, ?_⟩
  rw [scientific_eq, Scientific.addFraction_eq_keep, Scientific.addInteger_eq_keep]
  simp

theorem significand_scientific_le (n : Literal) : n.scientific.significand ≤ maxSignificand := by
  obtain ⟨whole, kept, keeps, keeps', same⟩ := n.exists_keeps
  rw [same]
  exact keeps'.fits (keeps.fits (Nat.zero_le _))

theorem toRat_kept (kept i l j : Nat) :
    Scientific.toRat ⟨kept, i - l + j⟩ = (kept * 10 ^ j * 10 ^ i : Nat) / 10 ^ l := by
  have ten : (10 : ℚ) ≠ 0 := by norm_num
  rw [Scientific.toRat, zpow_add₀ ten, zpow_sub₀ ten, zpow_natCast, zpow_natCast, zpow_natCast]
  push_cast
  ring

theorem toRat_eq_mantissa (n : Literal) : n.toRat = n.mantissa * 10 ^ n.shift := by
  rw [toRat, mantissa, mul_assoc, ← zpow_add₀ (by norm_num), neg_add_eq_sub]

variable {n : Literal}

/-- The digits after the point that are not kept only make the number smaller. -/
theorem scientific_le_of_fits (fits : digitsValue n.whole.bytes ≤ maxSignificand) :
    n.scientific.toRat ≤ n.mantissa := by
  have whole : Scientific.addInteger ⟨0, 0⟩ n.whole.bytes = ⟨digitsValue n.whole.bytes, 0⟩ :=
    addInteger_of_le fits
  have below := (keeps_keep (digitsValue n.whole.bytes) n.fractionDigits_digits).below
  have kept := toRat_kept (keep (digitsValue n.whole.bytes) n.fractionDigits).1 0
    n.fractionDigits.length (keep (digitsValue n.whole.bytes) n.fractionDigits).2
  rw [scientific_eq, whole, Scientific.addFraction_eq_keep, mantissa_eq]
  refine (kept.trans_le ?_)
  rw [pow_zero, Nat.mul_one]
  exact div_le_div_of_nonneg_right (by exact_mod_cast below) (by positivity)

theorem whole_le_toRat (n : Literal) :
    (digitsValue n.whole.bytes : ℚ) * 10 ^ n.shift ≤ n.toRat := by
  rw [toRat_eq_mantissa, mantissa_eq]
  refine mul_le_mul_of_nonneg_right ?_ (zpow_nonneg (by norm_num) _)
  rw [le_div_iff₀ (pow_pos (by norm_num) _)]
  exact_mod_cast Nat.le_add_right _ _

theorem exists_value_of_no_exponent (fits : digitsValue n.whole.bytes ≤ maxSignificand)
    (none : n.exponent = none) (small : n.toRat ≤ Decimal.bound) : ∃ x, n.value? = some x := by
  have same : n.toRat = n.mantissa := by
    rw [toRat_eq_mantissa, shift, none, Option.elim_none, zpow_zero, mul_one]
  have double := exists_double? n.negative n.significand_scientific_le
    ((scientific_le_of_fits fits).trans (same ▸ small))
  cases fraction : n.fraction with
  | some f =>
    simp only [value?, fraction, none]
    exact double
  | none =>
    have alone : n.scientific = Scientific.addInteger ⟨0, 0⟩ n.whole.bytes := by
      rw [scientific, fraction]
    simp only [value?, fraction, none, whole?, ← alone]
    split
    · exact ⟨_, rfl⟩
    · split
      · exact ⟨_, rfl⟩
      · exact double

/-- The digits before the point must not be zero: behind a zero there can be so many zeros that an
exponent beyond the range is made up for. -/
theorem exists_value_of_exponent (fits : digitsValue n.whole.bytes ≤ maxSignificand) {e : Exponent}
    (exponent : n.exponent = some e) (led : 0 < digitsValue n.whole.bytes)
    (small : n.toRat ≤ Decimal.bound) : ∃ x, n.value? = some x := by
  have shifted : n.shift =
      if e.down then -(digitsValue e.digits.bytes : Int) else digitsValue e.digits.bytes := by
    rw [shift, exponent, Option.elim_some]
  have read : n.value? = scaled? n.negative n.scientific e := by
    cases fraction : n.fraction <;> rw [value?, exponent, fraction]
  simp only [read, scaled?]
  split
  · refine exists_double? n.negative n.significand_scientific_le ?_
    rw [Scientific.toRat_shift, ← shifted]
    refine le_trans ?_ small
    rw [toRat_eq_mantissa]
    exact mul_le_mul_of_nonneg_right (scientific_le_of_fits fits) (zpow_nonneg (by norm_num) _)
  · split
    next beyond up =>
      have limit := exponent_lt_of_toRat_le led (n.whole_le_toRat.trans small)
      rw [shifted, up.2, if_neg Bool.false_ne_true] at limit
      simp only [maxExponent] at beyond
      omega
    · have zero : Scientific.toRat ⟨0, 0⟩ ≤ Decimal.bound := by
        rw [Scientific.toRat, Nat.cast_zero, zero_mul]
        exact Nat.cast_nonneg _
      exact exists_double? n.negative (Nat.zero_le _) zero

theorem exists_value (fits : digitsValue n.whole.bytes ≤ maxSignificand)
    (led : n.exponent ≠ none → 0 < digitsValue n.whole.bytes) (small : n.toRat ≤ Decimal.bound) :
    ∃ x, n.value? = some x := by
  cases exponent : n.exponent with
  | none => exact exists_value_of_no_exponent fits exponent small
  | some e =>
    have led := led (by rw [exponent]; exact Option.some_ne_none e)
    exact exists_value_of_exponent fits exponent led small

end Literal
end FleetWatch.JsonNumber
