import FleetWatch.Fleet.Latency
import FleetWatch.Proofs.Number.Fixed
import Mathlib.Tactic.Linarith

/-!
# The text and the band of a latency

The text and the severity of a latency are chosen by comparisons of their own.  Both are here brought
to the value of the number, over every bit pattern.

* `Latency.text_eq_unknown_iff`: what has no text.
* `Latency.shows_centesimal`, `Latency.numeral_mono`: the text is the nearest hundredth, in order.
* `Latency.severity_of_finite`: the band by the value.
* `Latency.text_and_severity`: both together.
-/

namespace FleetWatch

namespace Binary64

def isInfinite (x : Binary64) : Bool := decide (x.magnitudeBits = infinityBits)

theorem isFinite_eq_false_iff (x : Binary64) :
    x.isFinite = false ↔ x.isNaN = true ∨ x.isInfinite = true := by
  simp only [isFinite, isNaN, isInfinite, decide_eq_false_iff_not, decide_eq_true_eq]
  omega

theorem eq_of_fields {x y : Binary64} (sign : x.isNegative = y.isNegative)
    (magnitude : x.magnitudeBits = y.magnitudeBits) : x = y := by
  rw [isNegative, isNegative, decide_eq_decide] at sign
  have left := x.bits.toNat_lt
  have right := y.bits.toNat_lt
  simp only [magnitudeBits, signBit] at sign magnitude
  have bits : x.bits = y.bits := UInt64.toNat_inj.1 (by omega)
  calc x = ⟨x.bits⟩ := rfl
    _ = y := by rw [bits]

/-- The one number that is not below zero and has its sign bit set is `-0.0`. -/
theorem isNegative_iff_of_nonneg {x : Binary64} (nonneg : 0 ≤ x.toRat) :
    x.isNegative = true ↔ x = zero.neg := by
  constructor
  · intro negative
    rw [toRat_nonneg_iff, scaled, if_pos negative] at nonneg
    have none : unitsOfBits x.magnitudeBits = unitsOfBits 0 := by
      rw [show unitsOfBits 0 = 0 from rfl, ← units]
      omega
    exact eq_of_fields (negative.trans (by decide)) (unitsOfBits_strictMono.injective none)
  · rintro rfl
    decide

end Binary64

/-- Greater is worse. -/
def Severity.rank : Severity → Nat
  | ok => 0
  | good => 1
  | warn => 2
  | bad => 3

namespace Latency

/-! ## What is shown -/

/-- Absent, not a number, infinite or below zero. -/
def Unknown : Latency → Prop
  | none => True
  | some x => x.isNaN = true ∨ x.isInfinite = true ∨ x.toRat < 0

theorem isShown_iff (x : Binary64) : isShown x = true ↔ x.isFinite = true ∧ 0 ≤ x.toRat := by
  simp only [isShown, Bool.and_eq_true, Binary64.toRat_nonneg_iff]
  exact and_congr_right Binary64.zero_le_iff

theorem not_unknown_iff (x : Binary64) : ¬ Unknown (some x) ↔ isShown x = true := by
  rw [isShown_iff, Unknown, ← or_assoc, ← Binary64.isFinite_eq_false_iff, not_or, not_lt,
    Bool.not_eq_false]

theorem text_of_isShown {x : Binary64} (shown : isShown x = true) :
    (text (some x)).toList = x.centesimal.text ++ ['m', 's'] := by
  rw [text, if_pos shown, String.toList_append, Binary64.toList_twoDecimals]
  rfl

theorem text_eq_unknown_iff (ms : Latency) : ms.text = unknownText ↔ Unknown ms := by
  cases ms with
  | none => exact iff_of_true rfl trivial
  | some x =>
    by_cases shown : isShown x = true
    · refine iff_of_false (fun unknown => ?_) ((not_unknown_iff x).2 shown)
      have unit : 's' ∈ unknownText.toList := by
        rw [← unknown, text_of_isShown shown]
        simp
      exact absurd unit (by decide)
    · refine iff_of_true ?_ (not_not.1 fun known => shown ((not_unknown_iff x).1 known))
      rw [text, if_neg shown]

/-- The text of the latency is the numeral with the unit. -/
def Shows (ms : Latency) (m : Centesimal) : Prop :=
  m.Valid ∧ ms.text.toList = m.text ++ ['m', 's']

theorem Shows.unique {ms : Latency} {m m' : Centesimal} (shows : Shows ms m) (shows' : Shows ms m') :
    m = m' :=
  Centesimal.eq_of_text shows.1 shows'.1 (List.append_cancel_right (shows.2.symm.trans shows'.2))

theorem shows_centesimal {x : Binary64} (shown : isShown x = true) : Shows (some x) x.centesimal :=
  ⟨Centesimal.valid_ofHundredths _ _, text_of_isShown shown⟩

theorem toRat_centesimal {x : Binary64} (nonneg : 0 ≤ x.toRat) :
    x.centesimal.toRat = x.hundredths * (1 / 100) := by
  have value : x.centesimal.magnitude = x.hundredths * (1 / 100) := by
    rw [Binary64.centesimal, Centesimal.magnitude_ofHundredths, div_eq_mul_one_div]
  cases sign : x.isNegative with
  | false => rw [Centesimal.toRat, show x.centesimal.negative = false from sign, value]; rfl
  | true =>
    obtain rfl := (Binary64.isNegative_iff_of_nonneg nonneg).1 sign
    have zero : Binary64.zero.neg.hundredths = 0 := by decide +kernel
    rw [Centesimal.toRat, value, zero]
    simp

example : text (some (Binary64.ofRatio false 1 8)) = "0.12ms" := by decide +kernel

example : text (some Binary64.zero.neg) = "-0.00ms" := by decide +kernel

theorem numeral_mono {x y : Binary64} (shown : isShown x = true) (shown' : isShown y = true)
    (le : x.toRat ≤ y.toRat) {m m' : Centesimal} (shows : Shows (some x) m)
    (shows' : Shows (some y) m') : m.toRat ≤ m'.toRat := by
  have nonneg := ((isShown_iff x).1 shown).2
  have hundredths := Binary64.hundredths_mono (Binary64.units_mono nonneg le)
  rw [shows.unique (shows_centesimal shown), shows'.unique (shows_centesimal shown'),
    toRat_centesimal nonneg, toRat_centesimal ((isShown_iff y).1 shown').2]
  exact mul_le_mul_of_nonneg_right (Nat.cast_le.2 hundredths) (by norm_num)

/-! ## Severities -/

theorem text_of_not_finite {x : Binary64} (infinite : x.isFinite = false) :
    text (some x) = unknownText := by
  simp [text, isShown, infinite]

theorem severity_of_not_finite {x : Binary64} (infinite : x.isFinite = false) :
    severity (some x) = .bad := by
  cases nan : x.isNaN with
  | true => simp [severity, Binary64.le, Binary64.lt, nan]
  | false =>
    have units : x.units = Binary64.unitsOfBits Binary64.infinityBits := by
      have bits : x.magnitudeBits = Binary64.infinityBits := by
        simp only [Binary64.isFinite, Binary64.isNaN, decide_eq_false_iff_not] at infinite nan
        omega
      rw [Binary64.units, bits]
    have zero : Binary64.zero.scaled = 0 := by decide
    have good : 0 ≤ goodMax.scaled ∧ goodMax.scaled < x.units := units ▸ by decide +kernel
    have warn : warnMax.scaled < x.units := units ▸ by decide +kernel
    have sign : x.scaled = x.units ∨ x.scaled = -x.units := by
      unfold Binary64.scaled
      split
      · exact .inr rfl
      · exact .inl rfl
    rcases sign with positive | negative
    · have above : x.le goodMax = false ∧ x.le warnMax = false := by
        simp only [Binary64.le, positive, Bool.and_eq_false_iff, decide_eq_false_iff_not]
        omega
      simp [severity, above]
    · have below : Binary64.zero.le x = false ∧ goodMax.lt x = false := by
        simp only [Binary64.le, Binary64.lt, zero, negative, Bool.and_eq_false_iff,
          decide_eq_false_iff_not]
        omega
      simp [severity, below]

theorem toRat_goodMax : goodMax.toRat = 10 := by
  exact_mod_cast (Binary64.toRat_eq_nat_iff goodMax 10).2 (by decide +kernel)

theorem toRat_warnMax : warnMax.toRat = 25 := by
  exact_mod_cast (Binary64.toRat_eq_nat_iff warnMax 25).2 (by decide +kernel)

theorem severity_of_finite {x : Binary64} (finite : x.isFinite = true) :
    severity (some x) =
      if 0 ≤ x.toRat ∧ x.toRat ≤ 10 then .good
      else if 10 < x.toRat ∧ x.toRat ≤ 25 then .warn
      else .bad := by
  have limits : goodMax.isFinite = true ∧ warnMax.isFinite = true := by decide +kernel
  simp only [severity, Bool.and_eq_true, Binary64.zero_le_iff finite, ← Binary64.toRat_nonneg_iff,
    Binary64.le_iff_toRat finite limits.1, Binary64.le_iff_toRat finite limits.2,
    Binary64.lt_iff_toRat limits.1 finite, toRat_goodMax, toRat_warnMax]

theorem severity_of_unknown {ms : Latency} (unknown : Unknown ms) : ms.severity = .bad := by
  cases ms with
  | none => rfl
  | some x =>
    cases finite : x.isFinite with
    | false => exact severity_of_not_finite finite
    | true =>
      have below : x.toRat < 0 := by
        rw [Unknown, ← or_assoc, ← Binary64.isFinite_eq_false_iff, finite] at unknown
        simpa using unknown
      rw [severity_of_finite finite, if_neg fun good => not_le.2 below good.1,
        if_neg fun warn => not_lt.2 (by linarith) warn.1]

/-- A severity that is not bad is that of a finite number. -/
theorem exists_of_severity_ne_bad {ms : Latency} (known : ms.severity ≠ .bad) :
    ∃ x, ms = some x ∧ x.isFinite = true := by
  cases ms with
  | none => exact absurd rfl known
  | some x =>
    refine ⟨x, rfl, ?_⟩
    by_contra infinite
    exact known (severity_of_not_finite (Bool.eq_false_iff.2 infinite))

theorem severity_eq_good_iff (ms : Latency) :
    ms.severity = .good ↔ ∃ x, ms = some x ∧ x.isFinite = true ∧ 0 ≤ x.toRat ∧ x.toRat ≤ 10 := by
  constructor
  · intro good
    obtain ⟨x, rfl, finite⟩ := exists_of_severity_ne_bad (by simp [good] : ms.severity ≠ .bad)
    rw [severity_of_finite finite] at good
    refine ⟨x, rfl, finite, ?_⟩
    split at good
    · assumption
    · split at good <;> cases good
  · rintro ⟨x, rfl, finite, within⟩
    rw [severity_of_finite finite, if_pos within]

theorem severity_eq_warn_iff (ms : Latency) :
    ms.severity = .warn ↔ ∃ x, ms = some x ∧ x.isFinite = true ∧ 10 < x.toRat ∧ x.toRat ≤ 25 := by
  constructor
  · intro warn
    obtain ⟨x, rfl, finite⟩ := exists_of_severity_ne_bad (by simp [warn] : ms.severity ≠ .bad)
    rw [severity_of_finite finite] at warn
    refine ⟨x, rfl, finite, ?_⟩
    split at warn
    · cases warn
    · split at warn
      · assumption
      · cases warn
  · rintro ⟨x, rfl, finite, within⟩
    rw [severity_of_finite finite, if_neg fun good => not_lt.2 good.2 within.1, if_pos within]

theorem rank_severity {x : Binary64} (finite : x.isFinite = true) (nonneg : 0 ≤ x.toRat) :
    (severity (some x)).rank = if x.toRat ≤ 10 then 1 else if x.toRat ≤ 25 then 2 else 3 := by
  simp only [severity_of_finite finite, nonneg, true_and]
  by_cases low : x.toRat ≤ 10
  · rw [if_pos low, if_pos low]
    rfl
  · rw [if_neg low, if_neg low]
    by_cases middle : x.toRat ≤ 25
    · rw [if_pos ⟨not_le.1 low, middle⟩, if_pos middle]
      rfl
    · rw [if_neg fun warn => middle warn.2, if_neg middle]
      rfl

theorem rank_severity_mono {x y : Binary64} (finite : x.isFinite = true) (finite' : y.isFinite = true)
    (nonneg : 0 ≤ x.toRat) (le : x.toRat ≤ y.toRat) :
    (severity (some x)).rank ≤ (severity (some y)).rank := by
  rw [rank_severity finite nonneg, rank_severity finite' (nonneg.trans le)]
  by_cases low : y.toRat ≤ 10
  · rw [if_pos low, if_pos (le.trans low)]
  · rw [if_neg low]
    by_cases middle : y.toRat ≤ 25
    · rw [if_pos middle, if_pos (le.trans middle)]
      split <;> decide
    · rw [if_neg middle]
      (repeat' split) <;> decide

/-! ## Both together -/

/-- The text is `--` for what is unknown, and else the nearest hundredth; a greater number has no
smaller numeral and no better severity. -/
theorem text_and_severity :
    (∀ ms : Latency, (ms.text = "--" ↔ Unknown ms) ∧ (Unknown ms → ms.severity = .bad)) ∧
      (∀ ms : Latency, ¬ Unknown ms → ∃ x m, ms = some x ∧ Shows ms m ∧
        (m.negative = true ↔ x = Binary64.zero.neg) ∧
        ∃ n : ℕ, m.toRat = n * (1 / 100) ∧ NearestMultiple (1 / 100) x.toRat n) ∧
      (∀ x y : Binary64, x.isFinite = true → y.isFinite = true → 0 ≤ x.toRat → x.toRat ≤ y.toRat →
        (∀ m m', Shows (some x) m → Shows (some y) m' → m.toRat ≤ m'.toRat) ∧
        (severity (some x)).rank ≤ (severity (some y)).rank) ∧
      ∀ ms : Latency,
        (ms.severity = .good ↔
          ∃ x, ms = some x ∧ x.isFinite = true ∧ 0 ≤ x.toRat ∧ x.toRat ≤ 10) ∧
        (ms.severity = .warn ↔
          ∃ x, ms = some x ∧ x.isFinite = true ∧ 10 < x.toRat ∧ x.toRat ≤ 25) := by
  refine ⟨fun ms => ⟨text_eq_unknown_iff ms, severity_of_unknown⟩, fun ms known => ?_,
    fun x y finite finite' nonneg le => ⟨fun m m' shows shows' => ?_,
      rank_severity_mono finite finite' nonneg le⟩,
    fun ms => ⟨severity_eq_good_iff ms, severity_eq_warn_iff ms⟩⟩
  · cases ms with
    | none => exact absurd trivial known
    | some x =>
      have shown := (not_unknown_iff x).1 known
      have nonneg := ((isShown_iff x).1 shown).2
      have nearest := x.nearest_hundredths
      rw [abs_of_nonneg nonneg] at nearest
      exact ⟨x, x.centesimal, rfl, shows_centesimal shown,
        Binary64.isNegative_iff_of_nonneg nonneg, x.hundredths, toRat_centesimal nonneg, nearest⟩
  · exact numeral_mono ((isShown_iff x).2 ⟨finite, nonneg⟩)
      ((isShown_iff y).2 ⟨finite', nonneg.trans le⟩) le shows shows'

/-- An eighth lies between two hundredths, and gets the even one; twenty is no better. -/
theorem text_and_severity_eighth :
    let eighth := Binary64.ofRatio false 1 8
    let twenty := Binary64.ofNat 20
    ¬ Unknown (some eighth) ∧ text (some eighth) = "0.12ms" ∧
      (severity (some eighth)).rank ≤ (severity (some twenty)).rank ∧
      ∃ x, some twenty = some x ∧ x.isFinite = true ∧ 10 < x.toRat ∧ x.toRat ≤ 25 := by
  intro eighth twenty
  obtain ⟨texts, -, ordered, bands⟩ := text_and_severity
  have written : text (some eighth) = "0.12ms" := by decide +kernel
  have finite : eighth.isFinite = true ∧ twenty.isFinite = true := by decide +kernel
  have nonneg : 0 ≤ eighth.toRat := eighth.toRat_nonneg_iff.2 (by decide +kernel)
  have le : eighth.toRat ≤ twenty.toRat :=
    (Binary64.scaled_le_iff_toRat eighth twenty).1 (by decide +kernel)
  have warned : severity (some twenty) = .warn := by decide +kernel
  refine ⟨fun unknown => ?_, written, (ordered eighth twenty finite.1 finite.2 nonneg le).2,
    (bands (some twenty)).2.1 warned⟩
  have missing := (texts (some eighth)).1.2 unknown
  rw [written] at missing
  exact absurd missing (by decide)

end Latency
end FleetWatch
