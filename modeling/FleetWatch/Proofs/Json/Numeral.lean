import FleetWatch.Json.Writer
import FleetWatch.Proofs.Json.Grammar
import FleetWatch.Proofs.Json.Magnitude
import FleetWatch.Proofs.Number.Digits

/-!
# Numbers that are written

Every number that is written is a literal which the reader takes: a whole number of 64 bits is read
as itself, and the shortest digits of a finite double, wherever the point is put, are not too great
to be read.

* `Numeral.text_placed`, `Numeral.toRat_placed`: a decimal with its point in place, text and value.
* `exists_literal_of_isFinite`: the text of a double.
* `Json.readable_integer`, `Json.readable_double`: numbers as tokens of the reader.
-/

namespace FleetWatch

namespace JsonNumber

/-! ## Digits as bytes -/

theorem utf8EncodeChar_of_isDigit {c : Char} (digit : c.isDigit = true) :
    String.utf8EncodeChar c = [UInt8.ofNat c.toNat] := by
  have bounds : 48 ≤ c.toNat ∧ c.toNat ≤ 57 := Char.isDigit_iff_toNat.1 digit
  exact Utf8.encodeChar_of_ascii (by omega)

theorem ofChars_of_isDigit {cs : List Char} (digits : ∀ c ∈ cs, c.isDigit = true) :
    Utf8.ofChars cs = cs.map fun c => UInt8.ofNat c.toNat := by
  rw [Utf8.ofChars, List.map_eq_flatMap]
  exact List.flatMap_congr fun c member => utf8EncodeChar_of_isDigit (digits c member)

theorem isDigit_byte {c : Char} (digit : c.isDigit = true) : isDigit (UInt8.ofNat c.toNat) = true := by
  have bounds : 48 ≤ c.toNat ∧ c.toNat ≤ 57 := Char.isDigit_iff_toNat.1 digit
  simp only [isDigit, Bool.and_eq_true, decide_eq_true_eq, UInt8.le_iff_toNat_le, UInt8.toNat_ofNat']
  have zero : '0'.toUInt8.toNat = 48 := rfl
  have nine : '9'.toUInt8.toNat = 57 := rfl
  omega

theorem digitsValue_ofChars {cs : List Char} (digits : ∀ c ∈ cs, c.isDigit = true) :
    digitsValue (Utf8.ofChars cs) = Nat.ofDigitChars 10 cs 0 := by
  rw [ofChars_of_isDigit digits, digitsValue, Nat.ofDigitChars_eq_foldl, List.foldl_map]
  refine List.foldl_ext _ _ _ fun n c member => ?_
  have bounds : 48 ≤ c.toNat ∧ c.toNat ≤ 57 := Char.isDigit_iff_toNat.1 (digits c member)
  have zero : '0'.toNat = 48 := rfl
  simp only [digitValue, UInt8.toNat_ofNat', zero]
  omega

theorem length_ofChars {cs : List Char} (digits : ∀ c ∈ cs, c.isDigit = true) :
    (Utf8.ofChars cs).length = cs.length := by
  rw [ofChars_of_isDigit digits, List.length_map]

def Digits.ofChars (cs : List Char) (nonempty : cs ≠ []) (digits : ∀ c ∈ cs, c.isDigit = true) :
    Digits where
  bytes := Utf8.ofChars cs
  ne_nil := by
    rw [ofChars_of_isDigit digits]
    exact fun none => nonempty (List.map_eq_nil_iff.1 none)
  digits := by
    rw [ofChars_of_isDigit digits, List.all_map]
    exact List.all_eq_true.2 fun c member => isDigit_byte (digits c member)

def Whole.ofChars (cs : List Char) (nonempty : cs ≠ []) (digits : ∀ c ∈ cs, c.isDigit = true)
    (canonical : ∀ rest, cs = '0' :: rest → rest = []) : Whole where
  toDigits := .ofChars cs nonempty digits
  canonical := by
    intro zero
    simp only [Digits.ofChars, ofChars_of_isDigit digits] at zero ⊢
    cases cs with
    | nil => cases zero
    | cons c rest =>
      have bounds : 48 ≤ c.toNat ∧ c.toNat ≤ 57 :=
        Char.isDigit_iff_toNat.1 (digits c List.mem_cons_self)
      have byte : (UInt8.ofNat c.toNat).toNat = 48 :=
        congrArg UInt8.toNat (Option.some.inj zero)
      rw [UInt8.toNat_ofNat'] at byte
      have first : c = '0' := Char.toNat_inj.1 (show c.toNat = 48 by omega)
      rw [canonical rest (by rw [first]), first]
      rfl

def Digits.ofNat (n : Nat) : Digits :=
  .ofChars (Nat.toDigits 10 n) Nat.toDigits_ne_nil fun _ => isDigit_of_mem_toDigits

def Whole.ofNat (n : Nat) : Whole :=
  .ofChars (Nat.toDigits 10 n) Nat.toDigits_ne_nil (fun _ => isDigit_of_mem_toDigits)
    (toDigits_canonical n)

theorem digitsValue_ofNat (n : Nat) : digitsValue (Utf8.ofChars (Nat.toDigits 10 n)) = n := by
  rw [digitsValue_ofChars fun _ => isDigit_of_mem_toDigits, Nat.ofDigitChars_ten_toDigits]

/-! ## Whole numbers -/

/-- The range of the whole numbers that the reader keeps whole. -/
def InRange (i : Int) : Prop := -(UInt64.size / 2 : Nat) ≤ i ∧ i < UInt64.size

theorem exists_literal_of_integer {i : Int} (range : InRange i) :
    ∃ n : Literal, n.Denotes (.integer i) ∧ n.bytes = Utf8.ofChars (toString i).toList := by
  let n : Literal := ⟨decide (i < 0), .ofNat i.natAbs, none, none⟩
  have value : n.integer = i := by
    have digits : digitsValue n.whole.bytes = i.natAbs := digitsValue_ofNat i.natAbs
    rw [Literal.integer, digits]
    by_cases negative : i < 0
    · rw [if_pos (decide_eq_true negative)]
      omega
    · rw [if_neg (by simpa [n] using negative)]
      omega
  refine ⟨n, ?_, ?_⟩
  · have denotes := Literal.Denotes.integer (n := n) rfl rfl (fun negative => ?_)
      (value ▸ range.1) (value ▸ range.2)
    · rwa [value] at denotes
    · have below := of_decide_eq_true negative
      omega
  · have unsigned : n.unsigned = Utf8.ofChars (Nat.toDigits 10 i.natAbs) := List.append_nil _
    rw [Literal.bytes, unsigned]
    cases i with
    | ofNat m =>
      have plain : (toString (Int.ofNat m)).toList = Nat.toDigits 10 m := Nat.toList_repr
      rw [plain]
      rfl
    | negSucc m =>
      have signed : (toString (Int.negSucc m)).toList = '-' :: Nat.toDigits 10 (m + 1) := by
        rw [show toString (Int.negSucc m) = "-" ++ Nat.repr (m + 1) from rfl, String.toList_append,
          Nat.toList_repr]
        rfl
      have negative : n.negative = true := decide_eq_true (Int.negSucc_lt_zero m)
      rw [signed, negative, if_pos rfl]
      rfl

/-! ## Decimals with a point -/

/-- The parts of a written decimal, all in digits. -/
structure Numeral where
  whole : List Char
  fraction : List Char
  exponent : Option Int

namespace Numeral

def text (m : Numeral) : List Char :=
  m.whole ++ ((if m.fraction = [] then [] else '.' :: m.fraction) ++
    m.exponent.elim [] fun e =>
      'e' :: (if e < 0 then '-' else '+') :: Nat.toDigits 10 e.natAbs)

def toRat (m : Numeral) : ℚ :=
  Nat.ofDigitChars 10 (m.whole ++ m.fraction) 0 * 10 ^ (m.exponent.getD 0 - m.fraction.length)

structure Valid (m : Numeral) : Prop where
  nonempty : m.whole ≠ []
  whole : ∀ c ∈ m.whole, c.isDigit = true
  fraction : ∀ c ∈ m.fraction, c.isDigit = true
  canonical : ∀ rest, m.whole = '0' :: rest → rest = []
  fits : Nat.ofDigitChars 10 m.whole 0 ≤ maxSignificand
  led : m.exponent ≠ none → 0 < Nat.ofDigitChars 10 m.whole 0

theorem mem_letters : 'e'.toUInt8 = 'e'.toUInt8 ∨ 'e'.toUInt8 = 'E'.toUInt8 := .inl rfl

/-- A signed exponent as it is written. -/
def writtenExponent (e : Int) : Exponent where
  letter := 'e'.toUInt8
  sign := [if e < 0 then '-'.toUInt8 else '+'.toUInt8]
  digits := .ofNat e.natAbs
  letter_mem := mem_letters
  sign_mem := by
    split
    · exact .inr (.inr rfl)
    · exact .inr (.inl rfl)

theorem bytes_writtenExponent (e : Int) :
    (writtenExponent e).bytes =
      Utf8.ofChars ('e' :: (if e < 0 then '-' else '+') :: Nat.toDigits 10 e.natAbs) := by
  rw [Exponent.bytes, writtenExponent]
  split <;> rfl

theorem shift_writtenExponent (e : Int) :
    (if (writtenExponent e).down then -(digitsValue (writtenExponent e).digits.bytes : Int)
      else digitsValue (writtenExponent e).digits.bytes) = e := by
  have digits : digitsValue (writtenExponent e).digits.bytes = e.natAbs := digitsValue_ofNat e.natAbs
  rw [digits]
  by_cases negative : e < 0
  · have down : (writtenExponent e).down = true := by
      simp [Exponent.down, writtenExponent, negative]
    rw [down, if_pos rfl]
    omega
  · have plus : '+'.toUInt8 ≠ '-'.toUInt8 := by decide
    have up : (writtenExponent e).down = false := by
      simp [Exponent.down, writtenExponent, negative, plus]
    rw [up, if_neg Bool.false_ne_true]
    omega

variable {m : Numeral}

/-- The literal that a numeral writes behind a sign. -/
def literal (negative : Bool) (valid : m.Valid) : Literal where
  negative := negative
  whole := .ofChars m.whole valid.nonempty valid.whole valid.canonical
  fraction :=
    if empty : m.fraction = [] then none else some (.ofChars m.fraction empty valid.fraction)
  exponent := m.exponent.map writtenExponent

variable (negative : Bool) (valid : m.Valid)

theorem fractionBytes_literal :
    (literal negative valid).fractionBytes =
      Utf8.ofChars (if m.fraction = [] then [] else '.' :: m.fraction) := by
  by_cases empty : m.fraction = []
  · have none : (literal negative valid).fraction = none := dif_pos empty
    rw [Literal.fractionBytes, none, if_pos empty]
    rfl
  · have digits : (literal negative valid).fraction = some (.ofChars m.fraction empty valid.fraction) :=
      dif_neg empty
    rw [Literal.fractionBytes, digits, if_neg empty]
    rfl

theorem fractionDigits_literal :
    (literal negative valid).fractionDigits = Utf8.ofChars m.fraction := by
  by_cases empty : m.fraction = []
  · have none : (literal negative valid).fraction = none := dif_pos empty
    rw [Literal.fractionDigits, none, empty]
    rfl
  · have digits : (literal negative valid).fraction = some (.ofChars m.fraction empty valid.fraction) :=
      dif_neg empty
    rw [Literal.fractionDigits, digits]
    rfl

theorem exponentBytes_literal :
    (literal negative valid).exponentBytes =
      Utf8.ofChars (m.exponent.elim [] fun e =>
        'e' :: (if e < 0 then '-' else '+') :: Nat.toDigits 10 e.natAbs) := by
  rw [Literal.exponentBytes, literal]
  cases m.exponent with
  | none => rfl
  | some e => exact bytes_writtenExponent e

theorem shift_literal : (literal negative valid).shift = m.exponent.getD 0 := by
  rw [Literal.shift, literal]
  cases m.exponent with
  | none => rfl
  | some e => exact shift_writtenExponent e

theorem unsigned_literal : (literal negative valid).unsigned = Utf8.ofChars m.text := by
  rw [Literal.unsigned, fractionBytes_literal, exponentBytes_literal, text, Utf8.ofChars_append,
    Utf8.ofChars_append]
  rfl

theorem toRat_literal : (literal negative valid).toRat = m.toRat := by
  have digits : ∀ c ∈ m.whole ++ m.fraction, c.isDigit = true :=
    List.forall_mem_append.2 ⟨valid.whole, valid.fraction⟩
  have whole : (literal negative valid).whole.bytes = Utf8.ofChars m.whole := rfl
  rw [Literal.toRat, toRat, fractionDigits_literal, shift_literal, whole, ← Utf8.ofChars_append,
    digitsValue_ofChars digits, length_ofChars valid.fraction]

theorem exists_value (small : m.toRat ≤ Decimal.bound) :
    ∃ x, (literal negative valid).value? = some x := by
  have whole : digitsValue (literal negative valid).whole.bytes = Nat.ofDigitChars 10 m.whole 0 :=
    digitsValue_ofChars valid.whole
  refine Literal.exists_value (whole ▸ valid.fits) (fun exponent => ?_)
    (toRat_literal negative valid ▸ small)
  rw [whole]
  refine valid.led fun none => exponent ?_
  rw [literal, none]
  rfl

/-! ## The point in place -/

theorem ofDigitChars_lt {cs : List Char} (digits : ∀ c ∈ cs, c.isDigit = true) (n : Nat) :
    Nat.ofDigitChars 10 cs n < (n + 1) * 10 ^ cs.length := by
  induction cs generalizing n with
  | nil => simp [Nat.ofDigitChars]
  | cons c cs ih =>
    obtain ⟨digit, others⟩ := List.forall_mem_cons.1 digits
    have bounds : 48 ≤ c.toNat ∧ c.toNat ≤ 57 := Char.isDigit_iff_toNat.1 digit
    have zero : '0'.toNat = 48 := rfl
    rw [Nat.ofDigitChars_cons, List.length_cons]
    calc Nat.ofDigitChars 10 cs (10 * n + (c.toNat - '0'.toNat))
        < (10 * n + (c.toNat - '0'.toNat) + 1) * 10 ^ cs.length := ih others _
      _ ≤ ((n + 1) * 10) * 10 ^ cs.length := Nat.mul_le_mul_right _ (by omega)
      _ = (n + 1) * 10 ^ (cs.length + 1) := by ring

theorem fits_of_length {cs : List Char} (digits : ∀ c ∈ cs, c.isDigit = true)
    (short : cs.length ≤ 16) : Nat.ofDigitChars 10 cs 0 ≤ maxSignificand := by
  have below := ofDigitChars_lt digits 0
  have power : 10 ^ cs.length ≤ 10 ^ 16 := Nat.pow_le_pow_right (by decide) short
  have limit : 10 ^ 16 ≤ maxSignificand := by decide
  omega

/-- The four ways to place the point. -/
def placed (digits : List Char) (exponent : Int) : Numeral :=
  let leading : Int := exponent + digits.length - 1
  if leading < -5 || 16 ≤ leading then ⟨digits.take 1, digits.drop 1, some leading⟩
  else if 0 ≤ exponent then ⟨digits ++ List.replicate exponent.toNat '0', ['0'], none⟩
  else if leading < 0 then ⟨['0'], List.replicate (-leading - 1).toNat '0' ++ digits, none⟩
  else ⟨digits.take (leading.toNat + 1), digits.drop (leading.toNat + 1), none⟩

section
variable {digits : List Char} (digit : ∀ c ∈ digits, c.isDigit = true) (nonempty : digits ≠ [])
  (nonzero : ∀ rest, digits ≠ '0' :: rest) (exponent : Int)
include nonempty

theorem text_placed : (placed digits exponent).text = Json.placePoint digits exponent := by
  have length := List.length_pos_iff.2 nonempty
  simp only [placed, Json.placePoint]
  split
  · have alone : digits.drop 1 = [] ↔ digits.length ≤ 1 := List.drop_eq_nil_iff
    simp only [text, alone, List.append_assoc, Option.elim_some, Nat.toString_eq_repr,
      Nat.toList_repr]
  · split
    · simp [text]
    · split
      · simp [text, nonempty]
      · have behind : digits.drop ((exponent + digits.length - 1).toNat + 1) ≠ [] := by
          rw [ne_eq, List.drop_eq_nil_iff]
          omega
        rw [text, if_neg behind]
        simp

theorem toRat_placed :
    (placed digits exponent).toRat = Nat.ofDigitChars 10 digits 0 * 10 ^ exponent := by
  have length := List.length_pos_iff.2 nonempty
  simp only [placed]
  split
  · rw [toRat, List.take_append_drop, List.length_drop, Option.getD_some]
    congr 2
    omega
  · split
    next nonneg =>
      obtain ⟨k, rfl⟩ := Int.eq_ofNat_of_zero_le nonneg
      have value : Nat.ofDigitChars 10 (digits ++ List.replicate k '0' ++ ['0']) 0 =
          10 * (10 ^ k * Nat.ofDigitChars 10 digits 0) := by
        rw [Nat.ofDigitChars_append, Nat.ofDigitChars_append, Nat.ofDigitChars_replicate_zero]
        rfl
      rw [toRat, Int.toNat_natCast, value, Option.getD_none]
      push_cast
      rw [zpow_natCast, List.length_singleton]
      norm_num
      ring
    · split
      next small =>
        have value (j : Nat) : Nat.ofDigitChars 10 (['0'] ++ (List.replicate j '0' ++ digits)) 0 =
            Nat.ofDigitChars 10 digits 0 := by
          rw [Nat.ofDigitChars_append, Nat.ofDigitChars_append, Nat.ofDigitChars_replicate_zero]
          rfl
        rw [toRat, value, List.length_append, List.length_replicate, Option.getD_none]
        congr 2
        omega
      · rw [toRat, List.take_append_drop, List.length_drop, Option.getD_none]
        congr 2
        omega

include digit nonzero

theorem placed_valid : (placed digits exponent).Valid := by
  have length := List.length_pos_iff.2 nonempty
  have zero : ∀ c ∈ ['0'], c.isDigit = true := List.forall_mem_singleton.2 rfl
  have zeros (k : Nat) : ∀ c ∈ List.replicate k '0', c.isDigit = true := fun c member =>
    zero c (List.mem_singleton.2 (List.eq_of_mem_replicate member))
  have front (k : Nat) : ∀ c ∈ digits.take k, c.isDigit = true :=
    fun c member => digit c (List.mem_of_mem_take member)
  have back (k : Nat) : ∀ c ∈ digits.drop k, c.isDigit = true :=
    fun c member => digit c (List.mem_of_mem_drop member)
  obtain ⟨d, others, rfl⟩ := List.exists_cons_of_ne_nil nonempty
  have first : d ≠ '0' := fun zero => nonzero others (by rw [zero])
  simp only [placed, Bool.or_eq_true, decide_eq_true_eq]
  split
  · refine ⟨List.cons_ne_nil _ _, front 1, back 1, fun rest same => ?_, fits_of_length (front 1) ?_,
      fun _ => ?_⟩
    · exact absurd (List.cons.inj same).1 first
    · simp
    · have bounds : 48 ≤ d.toNat ∧ d.toNat ≤ 57 :=
        Char.isDigit_iff_toNat.1 (digit d List.mem_cons_self)
      have other : d.toNat ≠ 48 := fun same => first (Char.toNat_inj.1 same)
      have value : Nat.ofDigitChars 10 [d] 0 = d.toNat - 48 := by
        rw [Nat.ofDigitChars_cons, Nat.mul_zero, Nat.zero_add]
        rfl
      rw [List.take_succ_cons, List.take_zero, value]
      omega
  next within =>
    split
    next nonneg =>
      have whole : ∀ c ∈ d :: others ++ List.replicate exponent.toNat '0', c.isDigit = true :=
        List.forall_mem_append.2 ⟨digit, zeros _⟩
      refine ⟨List.cons_ne_nil _ _, whole, zero, fun rest same => ?_, fits_of_length whole ?_, nofun⟩
      · exact absurd (List.cons.inj same).1 first
      · rw [List.length_append, List.length_replicate]
        omega
    · split
      · exact ⟨List.cons_ne_nil _ _, zero, List.forall_mem_append.2 ⟨zeros _, digit⟩,
          fun rest same => (List.cons.inj same).2.symm, Nat.zero_le _, nofun⟩
      · refine ⟨List.cons_ne_nil _ _, front _, back _, fun rest same => ?_,
          fits_of_length (front _) ?_, nofun⟩
        · exact absurd (List.cons.inj same).1 first
        · rw [List.length_take]
          omega

end

end Numeral

/-! ## Doubles -/

/-- A text without sign is that of a literal of this sign, and the literal has a number. -/
def Written (negative : Bool) (text : List Char) : Prop :=
  ∃ n : Literal, n.negative = negative ∧ n.unsigned = Utf8.ofChars text ∧ ∃ x, n.value? = some x

theorem Numeral.written {m : Numeral} (valid : m.Valid) (small : m.toRat ≤ Decimal.bound)
    (negative : Bool) : Written negative m.text :=
  ⟨literal negative valid, rfl, unsigned_literal negative valid, exists_value negative valid small⟩

/-- The shortest digits of a double with the point in place, as they stand behind the sign. -/
def decimalText (d : Decimal) : List Char :=
  if d.digits = 0 then ['0', '.', '0'] else Json.placePoint (Nat.toDigits 10 d.digits) d.exponent

theorem written_decimalText {d : Decimal} (small : d.toRat ≤ Decimal.bound) (negative : Bool) :
    Written negative (decimalText d) := by
  rw [decimalText]
  split
  case isTrue =>
    have valid : (⟨['0'], ['0'], none⟩ : Numeral).Valid :=
      ⟨by decide, List.all_eq_true.1 (by decide), List.all_eq_true.1 (by decide),
        fun rest same => (List.cons.inj same).2.symm, by decide, nofun⟩
    refine Numeral.written valid ?_ negative
    have zero : (⟨['0'], ['0'], none⟩ : Numeral).toRat = 0 := by
      rw [Numeral.toRat, show Nat.ofDigitChars 10 (['0'] ++ ['0']) 0 = 0 from rfl, Nat.cast_zero,
        zero_mul]
    rw [zero]
    exact Nat.cast_nonneg _
  case isFalse some =>
    have pos := Nat.pos_of_ne_zero some
    have nonempty : Nat.toDigits 10 d.digits ≠ [] := Nat.toDigits_ne_nil
    have valid := Numeral.placed_valid (fun _ => isDigit_of_mem_toDigits) nonempty
      (toDigits_ne_zero_cons pos) d.exponent
    rw [← Numeral.text_placed nonempty]
    refine Numeral.written valid ?_ negative
    rwa [Numeral.toRat_placed nonempty, Nat.ofDigitChars_ten_toDigits]

/-- The greatest double, whose shortest digits are above the bound of the others. -/
def greatestNumeral : Numeral := ⟨['1'], "7976931348623157".toList, some 308⟩

theorem greatestNumeral_valid : greatestNumeral.Valid :=
  ⟨by decide, List.all_eq_true.1 (by decide), List.all_eq_true.1 (by decide), nofun, by decide,
    fun _ => by decide⟩

theorem written_greatest (negative : Bool) : Written negative greatestNumeral.text := by
  have value : (greatestNumeral.literal negative greatestNumeral_valid).value?.isSome = true := by
    cases negative <;> decide +kernel
  exact ⟨_, rfl, Numeral.unsigned_literal negative greatestNumeral_valid,
    Option.isSome_iff_exists.1 value⟩

theorem decimalText_greatest {x : Binary64} (last : x.magnitudeBits + 1 = Binary64.infinityBits) :
    decimalText (shortestDecimal x) = greatestNumeral.text := by
  have magnitude : x.magnitudeBits = Binary64.infinityBits - 1 := by omega
  rw [shortestDecimal, Binary64.units, magnitude]
  decide +kernel

theorem written_shortestDecimal {x : Binary64} (finite : x.isFinite = true) (negative : Bool) :
    Written negative (decimalText (shortestDecimal x)) := by
  have below : x.magnitudeBits < Binary64.infinityBits := of_decide_eq_true finite
  rcases Nat.lt_or_eq_of_le below with inner | last
  · exact written_decimalText (toRat_shortestDecimal_le inner) negative
  · rw [decimalText_greatest last]
    exact written_greatest negative

theorem exists_literal_of_isFinite {x : Binary64} (finite : x.isFinite = true) :
    ∃ (n : Literal) (m : JsonNumber), n.Denotes m ∧ n.bytes = Utf8.ofChars (Json.writeDouble x) := by
  obtain ⟨n, negative, unsigned, m, value⟩ := written_shortestDecimal finite x.isNegative
  refine ⟨n, m, (n.denotes_iff m).2 value, ?_⟩
  rw [Literal.bytes, negative, unsigned, Json.writeDouble, if_pos finite]
  cases x.isNegative <;> rfl

end JsonNumber

/-! ## Tokens -/

namespace Json

theorem readable_integer {i : Int} (range : JsonNumber.InRange i) :
    Lexis.readable.number (Utf8.ofChars (toString i).toList) (.integer i) := by
  obtain ⟨n, denotes, bytes⟩ := JsonNumber.exists_literal_of_integer range
  exact ⟨n, denotes, bytes.symm⟩

theorem readable_double {x : Binary64} (finite : x.isFinite = true) :
    ∃ m, Lexis.readable.number (Utf8.ofChars (writeDouble x)) m := by
  obtain ⟨n, m, denotes, bytes⟩ := JsonNumber.exists_literal_of_isFinite finite
  exact ⟨m, n, denotes, bytes.symm⟩

end Json
end FleetWatch
