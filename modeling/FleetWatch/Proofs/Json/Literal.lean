import FleetWatch.Json.Number
import FleetWatch.Proofs.Json.WellFormed

/-!
# Number literals

The texts of numbers by their parts, and the number that each stands for, if there is one.

* `readUnsigned_literal`: a literal is read to its end and gives its number.
* `exists_literal_of_readUnsigned`: nothing else is read.
* `Literal.denotes_iff`: the number read is the integer written wherever 64 bits hold one.
-/

namespace FleetWatch.JsonNumber

/-! ## The parts of a literal -/

structure Digits where
  bytes : Bytes
  ne_nil : bytes ≠ []
  digits : bytes.all isDigit = true

theorem Digits.isDigit_of_mem (ds : Digits) : ∀ b ∈ ds.bytes, isDigit b = true :=
  List.all_eq_true.1 ds.digits

/-- The digits before the point, of which a zero is the only one. -/
structure Whole extends Digits where
  canonical : bytes.head? = some '0'.toUInt8 → bytes = ['0'.toUInt8]

def Whole.zero : Whole := ⟨⟨['0'.toUInt8], by decide, by decide⟩, fun _ => rfl⟩

structure Exponent where
  letter : UInt8
  sign : Bytes
  digits : Digits
  letter_mem : letter = 'e'.toUInt8 ∨ letter = 'E'.toUInt8
  sign_mem : sign = [] ∨ sign = ['+'.toUInt8] ∨ sign = ['-'.toUInt8]

structure Literal where
  negative : Bool
  whole : Whole
  fraction : Option Digits
  exponent : Option Exponent

def Exponent.bytes (e : Exponent) : Bytes := e.letter :: (e.sign ++ e.digits.bytes)

namespace Literal

def fractionBytes (n : Literal) : Bytes :=
  match n.fraction with
  | none => []
  | some f => '.'.toUInt8 :: f.bytes

def exponentBytes (n : Literal) : Bytes :=
  match n.exponent with
  | none => []
  | some e => e.bytes

/-- The literal without its sign. -/
def unsigned (n : Literal) : Bytes := n.whole.bytes ++ (n.fractionBytes ++ n.exponentBytes)

def bytes (n : Literal) : Bytes := if n.negative then '-'.toUInt8 :: n.unsigned else n.unsigned

end Literal

/-! ## What a literal stands for -/

def digitsValue (ds : Bytes) : Nat := ds.foldl (fun n d => n * 10 + digitValue d) 0

def Exponent.down (e : Exponent) : Bool := e.sign == ['-'.toUInt8]

/-- A double of this sign, if the decimal is not too great for one. -/
def double? (negative : Bool) (s : Scientific) : Option JsonNumber :=
  s.toDouble?.map fun x => .float (if negative then x.neg else x)

/-- The number of digits alone, which is whole if 64 bits hold it. -/
def whole? (negative : Bool) (ds : Bytes) : Option JsonNumber :=
  let s := Scientific.addInteger ⟨0, 0⟩ ds
  if s.exponent = 0 ∧ negative = false then some (.integer s.significand)
  else if s.exponent = 0 ∧ 0 < s.significand ∧ s.significand ≤ UInt64.size / 2 then
    some (.integer (-s.significand))
  else double? negative s

def Scientific.shift (s : Scientific) (down : Bool) (e : Nat) : Scientific :=
  ⟨s.significand, if down then s.exponent - e else s.exponent + e⟩

/-- With an exponent, which beyond the greatest that is counted decides alone. -/
def scaled? (negative : Bool) (s : Scientific) (e : Exponent) : Option JsonNumber :=
  let exponent := digitsValue e.digits.bytes
  if exponent ≤ maxExponent then double? negative (s.shift e.down exponent)
  else if s.significand ≠ 0 ∧ e.down = false then none
  else double? negative ⟨0, 0⟩

namespace Literal

def scientific (n : Literal) : Scientific :=
  let s := Scientific.addInteger ⟨0, 0⟩ n.whole.bytes
  match n.fraction with
  | none => s
  | some f => s.addFraction f.bytes

/-- The number of a literal; none if it is too great for a double. -/
def value? (n : Literal) : Option JsonNumber :=
  match n.fraction, n.exponent with
  | none, none => whole? n.negative n.whole.bytes
  | some _, none => double? n.negative n.scientific
  | _, some e => scaled? n.negative n.scientific e

end Literal

/-! ## Readers by what they give -/

/-- A reader gives a number and leaves the rest, or fails where there is no number. -/
def Gives (read : Except JsonFailure (JsonNumber × Bytes)) (x? : Option JsonNumber) (rest : Bytes) :
    Prop :=
  ∀ x left, read = .ok (x, left) ↔ x? = some x ∧ left = rest

theorem gives_ofScientific (negative : Bool) (s : Scientific) (rest : Bytes) :
    Gives (ofScientific negative s rest) (double? negative s) rest := by
  intro x left
  unfold ofScientific double?
  cases s.toDouble? <;> simp [eq_comm]

theorem gives_ofDigits (negative : Bool) (ds rest : Bytes) :
    Gives (ofDigits negative ds rest) (whole? negative ds) rest := by
  intro x left
  have scientific := gives_ofScientific negative (Scientific.addInteger ⟨0, 0⟩ ds) rest x left
  simp only [ofDigits, whole?]
  by_cases whole : (Scientific.addInteger ⟨0, 0⟩ ds).exponent = 0
  · cases negative with
    | false => simp [whole, eq_comm]
    | true =>
      by_cases fits : 0 < (Scientific.addInteger ⟨0, 0⟩ ds).significand ∧
          (Scientific.addInteger ⟨0, 0⟩ ds).significand ≤ UInt64.size / 2
      · simp [whole, fits, eq_comm]
      · simpa [whole, fits] using scientific
  · simpa [whole] using scientific

/-! ## Runs of digits -/

def NoDigit (bs : Bytes) : Prop := ∀ b, bs.head? = some b → isDigit b = false

/-- What follows a literal cannot be a part of it. -/
def Literal.Stops (n : Literal) (rest : Bytes) : Prop :=
  ∀ b, rest.head? = some b → isDigit b = false ∧
    (n.exponent = none → b ≠ 'e'.toUInt8 ∧ b ≠ 'E'.toUInt8 ∧
      (n.fraction = none → b ≠ '.'.toUInt8))

theorem Literal.Stops.noDigit {n : Literal} {rest : Bytes} (stops : n.Stops rest) : NoDigit rest :=
  fun b head => (stops b head).1

theorem noDigit_dropWhile (bs : Bytes) : NoDigit (bs.dropWhile isDigit) := by
  intro b head
  obtain ⟨rest, drop⟩ := List.head?_eq_some_iff.1 head
  have stops := List.head_dropWhile_not isDigit (l := bs) (by rw [drop]; exact List.cons_ne_nil _ _)
  simpa [drop] using stops

theorem takeWhile_digits {ds rest : Bytes} (digit : ∀ b ∈ ds, isDigit b = true)
    (stops : NoDigit rest) : (ds ++ rest).takeWhile isDigit = ds := by
  rw [List.takeWhile_append_of_pos digit]
  cases rest with
  | nil => simp
  | cons b rest => simp [stops b rfl]

theorem dropWhile_digits {ds rest : Bytes} (digit : ∀ b ∈ ds, isDigit b = true)
    (stops : NoDigit rest) : (ds ++ rest).dropWhile isDigit = rest := by
  rw [List.dropWhile_append_of_pos digit]
  cases rest with
  | nil => rfl
  | cons b rest => simp [stops b rfl]

theorem le_foldl_digits (n : Nat) (ds : Bytes) :
    n ≤ ds.foldl (fun n d => n * 10 + digitValue d) n := by
  induction ds generalizing n with
  | nil => exact Nat.le_refl n
  | cons d ds ih => exact Nat.le_trans (by omega) (ih (n * 10 + digitValue d))

theorem readExponentDigits_of_le {ds rest : Bytes} (digit : ∀ b ∈ ds, isDigit b = true)
    (stops : NoDigit rest) {e : Nat}
    (fits : ds.foldl (fun n d => n * 10 + digitValue d) e ≤ maxExponent) :
    readExponentDigits e (ds ++ rest) =
      .ok (ds.foldl (fun n d => n * 10 + digitValue d) e, rest) := by
  induction ds generalizing e with
  | nil =>
    cases rest with
    | nil => rfl
    | cons b rest => simp [readExponentDigits, stops b rfl]
  | cons d ds ih =>
    obtain ⟨here, others⟩ := List.forall_mem_cons.1 digit
    have within : e * 10 + digitValue d ≤ maxExponent := Nat.le_trans (le_foldl_digits _ ds) fits
    rw [List.cons_append, readExponentDigits, if_pos here]
    simp only [if_pos within]
    exact ih others fits

theorem readExponentDigits_of_lt {ds rest : Bytes} (digit : ∀ b ∈ ds, isDigit b = true)
    (stops : NoDigit rest) {e : Nat} (within : e ≤ maxExponent)
    (beyond : maxExponent < ds.foldl (fun n d => n * 10 + digitValue d) e) :
    ∃ left, readExponentDigits e (ds ++ rest) = .error left ∧ left.dropWhile isDigit = rest := by
  induction ds generalizing e with
  | nil => exact absurd beyond (Nat.not_lt.2 within)
  | cons d ds ih =>
    obtain ⟨here, others⟩ := List.forall_mem_cons.1 digit
    rw [List.cons_append, readExponentDigits, if_pos here]
    by_cases next : e * 10 + digitValue d ≤ maxExponent
    · simp only [if_pos next]
      exact ih others next beyond
    · simp only [if_neg next]
      exact ⟨ds ++ rest, rfl, dropWhile_digits others stops⟩

/-! ## A literal is read to its end -/

theorem gives_magnitude (negative down : Bool) (s : Scientific) (digits : Digits) {rest : Bytes}
    (stops : NoDigit rest) :
    Gives
      (match readExponentDigits 0 (digits.bytes ++ rest) with
      | .ok (e, rest) => ofScientific negative (s.shift down e) rest
      | .error rest =>
        if s.significand ≠ 0 && !down then .error ⟨.numberOutOfRange, rest⟩
        else ofScientific negative ⟨0, 0⟩ (rest.dropWhile isDigit))
      (let exponent := digitsValue digits.bytes
      if exponent ≤ maxExponent then double? negative (s.shift down exponent)
      else if s.significand ≠ 0 ∧ down = false then none
      else double? negative ⟨0, 0⟩) rest := by
  by_cases fits : digitsValue digits.bytes ≤ maxExponent
  · rw [readExponentDigits_of_le digits.isDigit_of_mem stops fits]
    simp only [if_pos fits]
    exact gives_ofScientific _ _ _
  · obtain ⟨left, read, behind⟩ :=
      readExponentDigits_of_lt digits.isDigit_of_mem stops (Nat.zero_le _) (Nat.not_le.1 fits)
    rw [read]
    simp only [if_neg fits]
    by_cases great : s.significand ≠ 0 ∧ down = false
    · simp [Gives, great]
    · have small : (s.significand ≠ 0 && !down) = false := by simpa using great
      simp only [small, Bool.false_eq_true, if_false, if_neg great, behind]
      exact gives_ofScientific _ _ _

theorem Digits.exists_cons (digits : Digits) :
    ∃ d ds, digits.bytes = d :: ds ∧ isDigit d = true := by
  obtain ⟨d, ds, bytes⟩ := List.exists_cons_of_ne_nil digits.ne_nil
  exact ⟨d, ds, bytes, digits.isDigit_of_mem d (bytes ▸ List.mem_cons_self)⟩

theorem Literal.exists_byte (n : Literal) :
    ∃ b bs, n.bytes = b :: bs ∧ (b = '-'.toUInt8 ∨ isDigit b = true) := by
  obtain ⟨d, ds, bytes, digit⟩ := n.whole.exists_cons
  unfold Literal.bytes
  split
  · exact ⟨_, _, rfl, .inl rfl⟩
  · exact ⟨d, ds ++ _, by rw [Literal.unsigned, bytes, List.cons_append], .inr digit⟩

theorem gives_readExponent (negative : Bool) (s : Scientific) (e : Exponent) {rest : Bytes}
    (stops : NoDigit rest) :
    Gives (readExponent negative s (e.sign ++ e.digits.bytes ++ rest)) (scaled? negative s e)
      rest := by
  obtain ⟨d, ds, bytes, digit⟩ := e.digits.exists_cons
  have minus : d ≠ '-'.toUInt8 := by
    rintro rfl
    cases digit
  have plus : d ≠ '+'.toUInt8 := by
    rintro rfl
    cases digit
  have magnitude := gives_magnitude negative e.down s e.digits stops
  have differ : ('+'.toUInt8 : UInt8) ≠ '-'.toUInt8 := by decide
  rcases e.sign_mem with sign | sign | sign
  · have up : e.down = false := by simp [Exponent.down, sign]
    rw [up, bytes] at magnitude
    simp [readExponent, scaled?, sign, up, bytes, minus, plus, digit] at magnitude ⊢
    exact magnitude
  · have up : e.down = false := by simp [Exponent.down, sign, differ]
    rw [up, bytes] at magnitude
    simp [readExponent, scaled?, sign, up, bytes, differ, digit] at magnitude ⊢
    exact magnitude
  · have down : e.down = true := by simp [Exponent.down, sign]
    rw [down, bytes] at magnitude
    simp [readExponent, scaled?, sign, down, bytes, digit] at magnitude ⊢
    exact magnitude

theorem gives_readAfterInteger (n : Literal) {rest : Bytes} (stops : n.Stops rest) :
    Gives
      (readAfterInteger n.negative n.whole.bytes (n.fractionBytes ++ (n.exponentBytes ++ rest)))
      n.value? rest := by
  obtain ⟨negative, whole, fraction, exponent⟩ := n
  cases exponent with
  | none =>
    cases fraction with
    | none =>
      cases rest with
      | nil => exact gives_ofDigits negative whole.bytes []
      | cons b rest =>
        obtain ⟨-, lower, upper, point⟩ :=
          (stops b rfl).imp_right fun others => others rfl
        simpa [Literal.fractionBytes, Literal.exponentBytes, readAfterInteger, Literal.value?,
          lower, upper, point rfl] using gives_ofDigits negative whole.bytes (b :: rest)
    | some f =>
      have taken := takeWhile_digits f.isDigit_of_mem stops.noDigit
      have left := dropWhile_digits f.isDigit_of_mem stops.noDigit
      have double := gives_ofScientific negative
        ((Scientific.addInteger ⟨0, 0⟩ whole.bytes).addFraction f.bytes) rest
      cases rest with
      | nil =>
        simp only [List.append_nil] at taken left
        simpa [Literal.fractionBytes, Literal.exponentBytes, readAfterInteger, Literal.value?,
          Literal.scientific, taken, left, f.ne_nil] using double
      | cons b rest =>
        obtain ⟨-, lower, upper, -⟩ := (stops b rfl).imp_right fun others => others rfl
        simpa [Literal.fractionBytes, Literal.exponentBytes, readAfterInteger, Literal.value?,
          Literal.scientific, taken, left, f.ne_nil, lower, upper] using double
  | some e =>
    have letter : e.letter ≠ '.'.toUInt8 := by
      rcases e.letter_mem with letter | letter <;> rw [letter] <;> decide
    cases fraction with
    | none =>
      have scaled := gives_readExponent negative (Scientific.addInteger ⟨0, 0⟩ whole.bytes) e
        stops.noDigit
      simpa [Literal.fractionBytes, Literal.exponentBytes, Exponent.bytes, readAfterInteger,
        Literal.value?, Literal.scientific, letter, e.letter_mem] using scaled
    | some f =>
      have scaled := gives_readExponent negative
        ((Scientific.addInteger ⟨0, 0⟩ whole.bytes).addFraction f.bytes) e stops.noDigit
      have behind : NoDigit (e.letter :: (e.sign ++ e.digits.bytes ++ rest)) := by
        rintro b ⟨⟩
        rcases e.letter_mem with letter | letter <;> rw [letter] <;> decide
      have taken := takeWhile_digits f.isDigit_of_mem behind
      have left := dropWhile_digits f.isDigit_of_mem behind
      simp only [List.append_assoc] at taken left
      simpa [Literal.fractionBytes, Literal.exponentBytes, Exponent.bytes, readAfterInteger,
        Literal.value?, Literal.scientific, taken, left, f.ne_nil, e.letter_mem] using scaled

theorem Literal.noDigit_behind_whole (n : Literal) {rest : Bytes} (stops : n.Stops rest) :
    NoDigit (n.fractionBytes ++ (n.exponentBytes ++ rest)) := by
  obtain ⟨negative, whole, fraction, exponent⟩ := n
  cases fraction with
  | some f =>
    rintro b ⟨⟩
    decide
  | none =>
    cases exponent with
    | none => exact stops.noDigit
    | some e =>
      rintro b ⟨⟩
      rcases e.letter_mem with letter | letter <;> rw [letter] <;> decide

theorem readUnsigned_literal (n : Literal) {rest : Bytes} (stops : n.Stops rest) :
    Gives (readUnsigned n.negative (n.unsigned ++ rest)) n.value? rest := by
  have after := gives_readAfterInteger n stops
  have behind := n.noDigit_behind_whole stops
  obtain ⟨d, ds, bytes, digit⟩ := n.whole.toDigits.exists_cons
  have split : n.unsigned ++ rest = d :: ds ++ (n.fractionBytes ++ (n.exponentBytes ++ rest)) := by
    simp [Literal.unsigned, bytes]
  rw [split]
  generalize n.fractionBytes ++ (n.exponentBytes ++ rest) = tail at after behind
  by_cases zero : d = '0'.toUInt8
  · have alone : ds = [] := by simpa [bytes, zero] using n.whole.canonical
    cases tail with
    | nil => simpa [readUnsigned, readAfterInteger, bytes, zero, alone] using after
    | cons b tail => simpa [readUnsigned, bytes, zero, alone, behind b rfl] using after
  · have taken := takeWhile_digits n.whole.isDigit_of_mem behind
    have left := dropWhile_digits n.whole.isDigit_of_mem behind
    rw [bytes, List.cons_append] at taken left
    rw [bytes] at after
    simp only [List.cons_append, readUnsigned.eq_def, if_neg zero, if_pos digit, taken, left]
    exact after

/-! ## Nothing else is read -/

theorem exists_digits {b : UInt8} (digit : isDigit b = true) (rest : Bytes) :
    ∃ (ds : Digits) (behind : Bytes), ds.bytes = (b :: rest).takeWhile isDigit ∧
      behind = (b :: rest).dropWhile isDigit ∧ b :: rest = ds.bytes ++ behind ∧
      NoDigit behind := by
  refine ⟨⟨(b :: rest).takeWhile isDigit, ?_, List.all_takeWhile⟩, (b :: rest).dropWhile isDigit,
    rfl, rfl, List.takeWhile_append_dropWhile.symm, noDigit_dropWhile _⟩
  rw [List.takeWhile_cons, if_pos digit]
  exact List.cons_ne_nil _ _

theorem exists_exponent {negative : Bool} {s : Scientific} {letter : UInt8}
    (letterMem : letter = 'e'.toUInt8 ∨ letter = 'E'.toUInt8) {bs : Bytes}
    {given : JsonNumber × Bytes} (read : readExponent negative s bs = .ok given) :
    ∃ (e : Exponent) (rest : Bytes), letter :: bs = e.bytes ++ rest ∧ NoDigit rest := by
  have digits_behind : ∀ sign behind : Bytes,
      (sign = [] ∨ sign = ['+'.toUInt8] ∨ sign = ['-'.toUInt8]) → bs = sign ++ behind →
      (∃ b rest, behind = b :: rest ∧ isDigit b = true) →
      ∃ (e : Exponent) (rest : Bytes), letter :: bs = e.bytes ++ rest ∧ NoDigit rest := by
    rintro sign _ signMem bytes ⟨b, rest, rfl, digit⟩
    obtain ⟨ds, behind, -, -, split, stops⟩ := exists_digits digit rest
    refine ⟨⟨letter, sign, ds, letterMem, signMem⟩, behind, ?_, stops⟩
    simp [Exponent.bytes, bytes, split]
  unfold readExponent at read
  simp only at read
  split at read
  · cases read
  · next b rest behind =>
    have digit : isDigit b = true := by
      cases digit : isDigit b with
      | true => rfl
      | false => simp [digit] at read
    split at behind
    · next signed =>
      obtain ⟨sign, split⟩ : ∃ sign, bs = sign :: b :: rest := by
        cases bs with
        | nil => cases behind
        | cons sign tail => exact ⟨sign, congrArg (List.cons sign) behind⟩
      refine digits_behind [sign] (b :: rest) ?_ split ⟨b, rest, rfl, digit⟩
      simpa [split, or_comm] using signed
    · exact digits_behind [] (b :: rest) (.inl rfl) behind ⟨b, rest, rfl, digit⟩

theorem exists_literal_of_readAfterInteger {negative : Bool} (whole : Whole) {bs : Bytes}
    (noDigit : NoDigit bs) {given : JsonNumber × Bytes}
    (read : readAfterInteger negative whole.bytes bs = .ok given) :
    ∃ (n : Literal) (rest : Bytes), n.negative = negative ∧
      whole.bytes ++ bs = n.unsigned ++ rest ∧ n.Stops rest := by
  have alone (stops : (⟨negative, whole, none, none⟩ : Literal).Stops bs) :
      ∃ (n : Literal) (rest : Bytes), n.negative = negative ∧
        whole.bytes ++ bs = n.unsigned ++ rest ∧ n.Stops rest := by
    refine ⟨⟨negative, whole, none, none⟩, bs, rfl, ?_, stops⟩
    simp [Literal.unsigned, Literal.fractionBytes, Literal.exponentBytes]
  cases bs with
  | nil => exact alone fun b => nofun
  | cons b rest =>
    by_cases point : b = '.'.toUInt8
    · cases rest with
      | nil => simp [readAfterInteger, point] at read
      | cons d rest =>
        have digit : isDigit d = true := by
          cases digit : isDigit d with
          | true => rfl
          | false => simp [readAfterInteger, point, digit] at read
        obtain ⟨f, after, taken, left, split, stops⟩ := exists_digits digit rest
        have nonempty : f.bytes.isEmpty = false := by simp [f.ne_nil]
        simp only [readAfterInteger, if_pos point, ← taken, ← left, nonempty] at read
        cases after with
        | nil =>
          refine ⟨⟨negative, whole, some f, none⟩, [], rfl, ?_, fun b => nofun⟩
          simp [Literal.unsigned, Literal.fractionBytes, Literal.exponentBytes, split, point]
        | cons b after =>
          by_cases letter : b = 'e'.toUInt8 ∨ b = 'E'.toUInt8
          · simp [letter] at read
            obtain ⟨e, behind, exponent, stops⟩ := exists_exponent letter read
            refine ⟨⟨negative, whole, some f, some e⟩, behind, rfl, ?_,
              fun b head => ⟨stops b head, nofun⟩⟩
            simp [Literal.unsigned, Literal.fractionBytes, Literal.exponentBytes, split, point,
              exponent]
          · refine ⟨⟨negative, whole, some f, none⟩, b :: after, rfl, ?_, ?_⟩
            · simp [Literal.unsigned, Literal.fractionBytes, Literal.exponentBytes, split, point]
            · rintro b ⟨⟩
              obtain ⟨lower, upper⟩ := not_or.1 letter
              exact ⟨stops b rfl, fun _ => ⟨lower, upper, nofun⟩⟩
    · by_cases letter : b = 'e'.toUInt8 ∨ b = 'E'.toUInt8
      · simp [readAfterInteger, point, letter] at read
        obtain ⟨e, behind, exponent, stops⟩ := exists_exponent letter read
        refine ⟨⟨negative, whole, none, some e⟩, behind, rfl, ?_,
          fun b head => ⟨stops b head, nofun⟩⟩
        simp [Literal.unsigned, Literal.fractionBytes, Literal.exponentBytes, exponent]
      · refine alone ?_
        rintro b ⟨⟩
        obtain ⟨lower, upper⟩ := not_or.1 letter
        exact ⟨noDigit b rfl, fun _ => ⟨lower, upper, fun _ => point⟩⟩

theorem exists_literal_of_readUnsigned {negative : Bool} {bs rest : Bytes} {x : JsonNumber}
    (read : readUnsigned negative bs = .ok (x, rest)) :
    ∃ n : Literal, n.negative = negative ∧ bs = n.unsigned ++ rest ∧ n.value? = some x := by
  obtain ⟨n, behind, sign, split, stops⟩ : ∃ (n : Literal) (behind : Bytes),
      n.negative = negative ∧ bs = n.unsigned ++ behind ∧ n.Stops behind := by
    cases bs with
    | nil => simp [readUnsigned] at read
    | cons b tail =>
      by_cases zero : b = '0'.toUInt8
      · have after : NoDigit tail ∧
            readAfterInteger negative Whole.zero.bytes tail = .ok (x, rest) := by
          cases tail with
          | nil =>
            refine ⟨fun b => nofun, ?_⟩
            simpa [readUnsigned, zero, readAfterInteger, Whole.zero] using read
          | cons d tail =>
            cases next : isDigit d with
            | true => simp [readUnsigned, zero, next] at read
            | false =>
              refine ⟨?_, by simpa [readUnsigned, zero, next, Whole.zero] using read⟩
              rintro d ⟨⟩
              exact next
        rw [zero]
        exact exists_literal_of_readAfterInteger Whole.zero after.1 after.2
      · cases digit : isDigit b with
        | false => simp [readUnsigned, zero, digit] at read
        | true =>
          obtain ⟨ds, behind, taken, left, split, stops⟩ := exists_digits digit tail
          have canonical : ds.bytes.head? ≠ some '0'.toUInt8 := by
            rw [taken, List.takeWhile_cons, if_pos digit, List.head?_cons]
            exact fun head => zero (Option.some_inj.1 head)
          simp only [readUnsigned.eq_def, if_neg zero, digit, if_true, ← taken, ← left] at read
          rw [split]
          let whole : Whole := ⟨ds, fun head => absurd head canonical⟩
          exact exists_literal_of_readAfterInteger whole stops read
  subst sign
  rw [split] at read ⊢
  obtain ⟨value, rfl⟩ := (readUnsigned_literal n stops x rest).1 read
  exact ⟨n, rfl, rfl, value⟩

/-! ## Integers -/

theorem addInteger_of_le {ds : Bytes} {s : Scientific}
    (fits : ds.foldl (fun n d => n * 10 + digitValue d) s.significand ≤ maxSignificand) :
    s.addInteger ds = ⟨ds.foldl (fun n d => n * 10 + digitValue d) s.significand, s.exponent⟩ := by
  induction ds generalizing s with
  | nil => rfl
  | cons d ds ih =>
    have within : s.significand * 10 + digitValue d ≤ maxSignificand :=
      Nat.le_trans (le_foldl_digits _ ds) fits
    simp only [Scientific.addInteger, if_pos within]
    exact ih fits

theorem le_of_addInteger {ds : Bytes} {s : Scientific} (within : s.significand ≤ maxSignificand)
    (kept : (s.addInteger ds).exponent = s.exponent) :
    ds.foldl (fun n d => n * 10 + digitValue d) s.significand ≤ maxSignificand := by
  induction ds generalizing s with
  | nil => exact within
  | cons d ds ih =>
    by_cases next : s.significand * 10 + digitValue d ≤ maxSignificand
    · simp only [Scientific.addInteger, if_pos next] at kept
      exact ih (s := ⟨s.significand * 10 + digitValue d, s.exponent⟩) next kept
    · simp only [Scientific.addInteger, if_neg next] at kept
      omega

/-- The integer that the digits before the point write. -/
def Literal.integer (n : Literal) : Int :=
  if n.negative then -digitsValue n.whole.bytes else digitsValue n.whole.bytes

/-- The number that a literal stands for: the integer that it writes, if it has neither fraction
nor exponent, is not minus zero and fits 64 bits; its double otherwise. -/
inductive Literal.Denotes (n : Literal) : JsonNumber → Prop
  | integer (fraction : n.fraction = none) (exponent : n.exponent = none)
      (notMinusZero : n.negative = true → n.integer ≠ 0)
      (low : -(UInt64.size / 2 : Nat) ≤ n.integer) (high : n.integer < UInt64.size) :
      Denotes n (.integer n.integer)
  | float {x : Binary64} (value : n.value? = some (.float x)) : Denotes n (.float x)

theorem double?_ne_integer (negative : Bool) (s : Scientific) (i : Int) :
    double? negative s ≠ some (.integer i) := by
  unfold double?
  cases s.toDouble? <;> simp

theorem scaled?_ne_integer (negative : Bool) (s : Scientific) (e : Exponent) (i : Int) :
    scaled? negative s e ≠ some (.integer i) := by
  simp only [scaled?]
  split
  · exact double?_ne_integer _ _ _
  · split
    · exact nofun
    · exact double?_ne_integer _ _ _

theorem whole?_eq_integer_iff (negative : Bool) (ds : Bytes) (i : Int) :
    whole? negative ds = some (.integer i) ↔
      i = (if negative then -(digitsValue ds : Int) else digitsValue ds) ∧
        (negative = true → i ≠ 0) ∧ -(UInt64.size / 2 : Nat) ≤ i ∧ i < UInt64.size := by
  have size : UInt64.size = 18446744073709551616 := rfl
  by_cases fits : digitsValue ds ≤ maxSignificand
  · have whole : Scientific.addInteger ⟨0, 0⟩ ds = ⟨digitsValue ds, 0⟩ := addInteger_of_le fits
    simp only [maxSignificand] at fits
    cases negative with
    | false =>
      simp only [whole?, whole, and_self, if_true, Option.some.injEq, JsonNumber.integer.injEq,
        Bool.false_eq_true, if_false, false_imp_iff, true_and]
      omega
    | true =>
      by_cases half : 0 < digitsValue ds ∧ digitsValue ds ≤ UInt64.size / 2
      · simp only [whole?, whole, half, and_self, Bool.true_eq_false, and_false, if_true, if_false,
          Option.some.injEq, JsonNumber.integer.injEq, true_imp_iff]
        omega
      · have double : whole? true ds = double? true ⟨digitsValue ds, 0⟩ := by
          simp [whole?, whole, half]
        rw [double]
        simp only [double?_ne_integer, if_true, true_imp_iff, false_iff]
        omega
  · have double : whole? negative ds = double? negative (Scientific.addInteger ⟨0, 0⟩ ds) := by
      have moved : (Scientific.addInteger ⟨0, 0⟩ ds).exponent ≠ 0 :=
        fun kept => fits (le_of_addInteger (Nat.zero_le _) kept)
      simp [whole?, moved]
    rw [double]
    simp only [maxSignificand] at fits
    simp only [double?_ne_integer, false_iff]
    cases negative <;> simp <;> omega

theorem Literal.denotes_iff (n : Literal) (x : JsonNumber) : n.Denotes x ↔ n.value? = some x := by
  have whole (fraction : n.fraction = none) (exponent : n.exponent = none) :
      n.value? = whole? n.negative n.whole.bytes := by
    rw [Literal.value?, fraction, exponent]
  constructor
  · rintro (⟨fraction, exponent, notMinusZero, low, high⟩ | value)
    · rw [whole fraction exponent]
      exact (whole?_eq_integer_iff _ _ _).2 ⟨rfl, notMinusZero, low, high⟩
    · exact value
  · intro value
    cases x with
    | float x => exact .float value
    | integer i =>
      cases exponent : n.exponent with
      | some e =>
        simp only [Literal.value?, exponent] at value
        exact absurd value (scaled?_ne_integer _ _ _ _)
      | none =>
        cases fraction : n.fraction with
        | some f =>
          rw [Literal.value?, fraction, exponent] at value
          exact absurd value (double?_ne_integer _ _ _)
        | none =>
          rw [whole fraction exponent] at value
          obtain ⟨rfl, notMinusZero, low, high⟩ := (whole?_eq_integer_iff _ _ _).1 value
          exact .integer fraction exponent notMinusZero low high

end FleetWatch.JsonNumber
