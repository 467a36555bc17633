import FleetWatch.Proofs.Json.WellFormed
import FleetWatch.Proofs.Text.Utf8

/-!
# String literals

The ways to write a character between quotes, and the texts that write a list of them.

* `JsonText.read_eq_ok_iff`: the reader gives exactly the string that a text writes.
* `JsonText.Spells.pieces`: the grammar has all these texts, and more.
-/

namespace FleetWatch

namespace JsonText

/-! ## Characters -/

/-- A hexadecimal digit and its value. -/
inductive HexDigit (b : UInt8) (k : Nat) : Prop
  | decimal (byte : b.toNat = 48 + k) (bound : k < 10)
  | lower (byte : b.toNat = 87 + k) (bound : 10 ≤ k ∧ k < 16)
  | upper (byte : b.toNat = 55 + k) (bound : 10 ≤ k ∧ k < 16)

/-- Four hexadecimal digits and their value. -/
def Hex4 (ds : Bytes) (n : Nat) : Prop :=
  ∃ a b c d i j k l, ds = [a, b, c, d] ∧
    HexDigit a i ∧ HexDigit b j ∧ HexDigit c k ∧ HexDigit d l ∧
    n = ((i * 16 + j) * 16 + k) * 16 + l

def shortEscapes : List (Char × Char) :=
  [('"', '"'), ('\\', '\\'), ('/', '/'), ('b', '\x08'), ('f', '\x0c'), ('n', '\n'), ('r', '\r'),
    ('t', '\t')]

/-- May stand for itself. -/
def Plain (c : Char) : Prop := ' ' ≤ c ∧ c ≠ '"' ∧ c ≠ '\\'

instance : DecidablePred Plain :=
  fun c => inferInstanceAs (Decidable (' ' ≤ c ∧ c ≠ '"' ∧ c ≠ '\\'))

/-- What stands behind a backslash and a `u`: the number of the character, or its two surrogates. -/
inductive Unicode : Bytes → Char → Prop
  | scalar {ds : Bytes} {c : Char} (hex : Hex4 ds c.toNat) : Unicode ds c
  | pair {ds es : Bytes} {high low : Nat} {c : Char} (hexHigh : Hex4 ds high)
      (hexLow : Hex4 es low) (leading : 0xD800 ≤ high ∧ high ≤ 0xDBFF)
      (trailing : 0xDC00 ≤ low ∧ low ≤ 0xDFFF)
      (value : c.toNat = 0x10000 + (high - 0xD800) * 0x400 + (low - 0xDC00)) :
      Unicode (ds ++ '\\'.toUInt8 :: 'u'.toUInt8 :: es) c

/-- What stands behind a backslash. -/
inductive Escape : Bytes → Char → Prop
  | short {letter c : Char} (mem : (letter, c) ∈ shortEscapes) : Escape [letter.toUInt8] c
  | unicode {t : Bytes} {c : Char} (unicode : Unicode t c) : Escape ('u'.toUInt8 :: t) c

inductive SpellsChar : Bytes → Char → Prop
  | plain {c : Char} (plain : Plain c) : SpellsChar (String.utf8EncodeChar c) c
  | escape {e : Bytes} {c : Char} (escape : Escape e c) : SpellsChar ('\\'.toUInt8 :: e) c

/-- The texts between quotes that write a list of characters. -/
inductive Spells : Bytes → List Char → Prop
  | nil : Spells [] []
  | cons {t ts : Bytes} {c : Char} {cs : List Char} (char : SpellsChar t c)
      (others : Spells ts cs) : Spells (t ++ ts) (c :: cs)

/-! ## Escapes -/

theorem hexValue_eq_some_iff (b : UInt8) (k : Nat) : hexValue b = some k ↔ HexDigit b k := by
  have within (low high : Char) : (low.toUInt8 ≤ b && b ≤ high.toUInt8) = true ↔
      low.toUInt8.toNat ≤ b.toNat ∧ b.toNat ≤ high.toUInt8.toNat := by
    simp [UInt8.le_iff_toNat_le]
  have decimal : _ ↔ 48 ≤ b.toNat ∧ b.toNat ≤ 57 := within '0' '9'
  have lower : _ ↔ 97 ≤ b.toNat ∧ b.toNat ≤ 102 := within 'a' 'f'
  have upper : _ ↔ 65 ≤ b.toNat ∧ b.toNat ≤ 70 := within 'A' 'F'
  constructor
  · intro value
    unfold hexValue at value
    split at value
    · next digit =>
      have range := decimal.1 digit
      cases value
      exact .decimal (by omega) (by omega)
    · split at value
      · next digit =>
        have range := lower.1 digit
        cases value
        exact .lower (by omega) (by omega)
      · split at value
        · next digit =>
          have range := upper.1 digit
          cases value
          exact .upper (by omega) (by omega)
        · cases value
  · rintro (⟨byte, bound⟩ | ⟨byte, bound⟩ | ⟨byte, bound⟩)
    · rw [hexValue, if_pos (decimal.2 (by omega)), byte, Nat.add_sub_cancel_left]
    · rw [hexValue, if_neg (mt decimal.1 (by omega)), if_pos (lower.2 (by omega)), byte,
        Nat.add_sub_cancel_left]
    · rw [hexValue, if_neg (mt decimal.1 (by omega)), if_neg (mt lower.1 (by omega)),
        if_pos (upper.2 (by omega)), byte, Nat.add_sub_cancel_left]

theorem simpleEscape_eq_some_iff (b : UInt8) (c : Char) :
    simpleEscape b = some c ↔ ∃ letter, (letter, c) ∈ shortEscapes ∧ b = letter.toUInt8 := by
  constructor
  · intro value
    unfold simpleEscape at value
    repeat
      split at value
      · next same =>
        cases value
        exact ⟨_, by simp [shortEscapes], same⟩
    cases value
  · rintro ⟨letter, mem, rfl⟩
    have table : ∀ entry ∈ shortEscapes, simpleEscape entry.1.toUInt8 = some entry.2 := by decide
    exact table _ mem

theorem readHex_eq_ok_iff (bs : Bytes) (n : Nat) (rest : Bytes) :
    readHex bs = .ok (n, rest) ↔ ∃ ds, Hex4 ds n ∧ bs = ds ++ rest := by
  constructor
  · intro read
    unfold readHex at read
    split at read
    · split at read
      · next a b c d rest _ _ _ _ i j k l ha hb hc hd =>
        cases read
        exact ⟨[a, b, c, d], ⟨a, b, c, d, i, j, k, l, rfl, (hexValue_eq_some_iff a i).1 ha,
          (hexValue_eq_some_iff b j).1 hb, (hexValue_eq_some_iff c k).1 hc,
          (hexValue_eq_some_iff d l).1 hd, rfl⟩, rfl⟩
      · cases read
    · cases read
  · rintro ⟨ds, ⟨a, b, c, d, i, j, k, l, rfl, ha, hb, hc, hd, rfl⟩, rfl⟩
    simp [readHex, (hexValue_eq_some_iff a i).2 ha, (hexValue_eq_some_iff b j).2 hb,
      (hexValue_eq_some_iff c k).2 hc, (hexValue_eq_some_iff d l).2 hd]

theorem Hex4.lt {ds : Bytes} {n : Nat} (hex : Hex4 ds n) : n < 0x10000 := by
  obtain ⟨a, b, c, d, i, j, k, l, rfl, ha, hb, hc, hd, rfl⟩ := hex
  have bound {b : UInt8} {k : Nat} (digit : HexDigit b k) : k < 16 := by
    cases digit <;> omega
  have := bound ha
  have := bound hb
  have := bound hc
  have := bound hd
  omega

theorem toNat_ofNat {n : Nat} (valid : n < 0xD800 ∨ 0xDFFF < n ∧ n < 0x110000) :
    (Char.ofNat n).toNat = n := by
  rw [Char.ofNat, dif_pos valid]
  rfl

theorem toNat_not_surrogate (c : Char) : c.toNat < 0xD800 ∨ 0xDFFF < c.toNat ∧ c.toNat < 0x110000 :=
  c.valid

theorem expectPairByte_eq_ok_iff (expected : UInt8) (bs rest : Bytes) :
    expectPairByte expected bs = .ok rest ↔ bs = expected :: rest := by
  cases bs with
  | nil => simp [expectPairByte]
  | cons b bs =>
    by_cases same : b = expected <;> simp [expectPairByte, same]

theorem readUnicode_eq_ok_iff (bs : Bytes) (c : Char) (rest : Bytes) :
    readUnicode bs = .ok (c, rest) ↔ ∃ t, Unicode t c ∧ bs = t ++ rest := by
  constructor
  · intro read
    obtain ⟨⟨high, afterHigh⟩, readHigh, read⟩ := bind_eq_ok.1 read
    obtain ⟨ds, hexHigh, split⟩ := (readHex_eq_ok_iff _ _ _).1 readHigh
    have small := hexHigh.lt
    simp only at read
    split at read
    · cases read
    · next notTrailing =>
      simp only [Bool.and_eq_true, decide_eq_true_eq] at notTrailing
      split at read
      · next scalar =>
        simp only [Bool.or_eq_true, decide_eq_true_eq] at scalar
        cases read
        exact ⟨ds, .scalar (by rwa [toNat_ofNat (by omega)]), split⟩
      · next leading =>
        simp only [Bool.or_eq_true, decide_eq_true_eq] at leading
        obtain ⟨afterSlash, slash, read⟩ := bind_eq_ok.1 read
        obtain ⟨afterU, u, read⟩ := bind_eq_ok.1 read
        obtain ⟨⟨low, afterLow⟩, readLow, read⟩ := bind_eq_ok.1 read
        have slash := (expectPairByte_eq_ok_iff _ _ _).1 slash
        have u := (expectPairByte_eq_ok_iff _ _ _).1 u
        obtain ⟨es, hexLow, splitLow⟩ := (readHex_eq_ok_iff _ _ _).1 readLow
        split at read
        · cases read
        · next trailing =>
          simp only [Bool.or_eq_true, decide_eq_true_eq] at trailing
          obtain ⟨rfl, rfl⟩ := Prod.mk.inj (Except.ok.inj read)
          refine ⟨_, .pair hexHigh hexLow (by omega) (by omega) (toNat_ofNat (by omega)), ?_⟩
          simp [split, slash, u, splitLow]
  · rintro ⟨t, unicode, rfl⟩
    cases unicode with
    | scalar hex =>
      have valid := toNat_not_surrogate c
      refine bind_eq_ok.2 ⟨(c.toNat, rest), (readHex_eq_ok_iff _ _ _).2 ⟨t, hex, rfl⟩, ?_⟩
      simp only [Bool.and_eq_true, Bool.or_eq_true, decide_eq_true_eq]
      rw [if_neg (by omega), if_pos (by omega), Char.ofNat_toNat]
    | @pair ds es high low _ hexHigh hexLow leading trailing value =>
      rw [List.append_assoc, List.cons_append, List.cons_append]
      refine bind_eq_ok.2 ⟨_, (readHex_eq_ok_iff _ _ _).2 ⟨ds, hexHigh, rfl⟩, ?_⟩
      simp only [Bool.and_eq_true, Bool.or_eq_true, decide_eq_true_eq]
      rw [if_neg (by omega), if_neg (by omega)]
      refine bind_eq_ok.2 ⟨_, (expectPairByte_eq_ok_iff _ _ _).2 rfl, ?_⟩
      refine bind_eq_ok.2 ⟨_, (expectPairByte_eq_ok_iff _ _ _).2 rfl, ?_⟩
      refine bind_eq_ok.2 ⟨_, (readHex_eq_ok_iff _ _ _).2 ⟨es, hexLow, rfl⟩, ?_⟩
      simp only
      rw [if_neg (by omega), ← value, Char.ofNat_toNat]

theorem readEscape_eq_ok_iff (bs : Bytes) (c : Char) (rest : Bytes) :
    readEscape bs = .ok (c, rest) ↔ ∃ t, Escape t c ∧ bs = t ++ rest := by
  constructor
  · intro read
    cases bs with
    | nil => cases read
    | cons b bs =>
      by_cases u : b = 'u'.toUInt8
      · rw [readEscape, if_pos u] at read
        obtain ⟨t, unicode, rfl⟩ := (readUnicode_eq_ok_iff _ _ _).1 read
        exact ⟨b :: t, u ▸ .unicode unicode, rfl⟩
      · rw [readEscape, if_neg u] at read
        cases simple : simpleEscape b with
        | none => simp [simple] at read
        | some d =>
          simp [simple] at read
          obtain ⟨rfl, rfl⟩ := read
          obtain ⟨letter, mem, rfl⟩ := (simpleEscape_eq_some_iff b d).1 simple
          exact ⟨_, .short mem, rfl⟩
  · rintro ⟨t, escape, rfl⟩
    cases escape with
    | @short letter _ mem =>
      have simple := (simpleEscape_eq_some_iff _ c).2 ⟨letter, mem, rfl⟩
      have notU : letter.toUInt8 ≠ 'u'.toUInt8 := by
        intro same
        rw [same] at simple
        cases simple
      simp [readEscape, notU, simple]
    | unicode unicode =>
      rw [List.cons_append, readEscape, if_pos rfl]
      exact (readUnicode_eq_ok_iff _ _ _).2 ⟨_, unicode, rfl⟩

/-! ## Strings -/

theorem readChars_of_broken (fuel : Nat) (after bs : Bytes) (given : List Char × Bytes) :
    readChars fuel (some after) bs ≠ .ok given := by
  induction fuel generalizing bs given with
  | zero => exact nofun
  | succ fuel ih =>
    cases bs with
    | nil => exact nofun
    | cons b bs =>
      intro read
      rw [readChars] at read
      split at read
      · cases read
      · split at read
        · cases read
        · split at read
          · obtain ⟨_, others, -⟩ := bind_eq_ok.1 read
            exact ih _ _ others
          · exact ih _ _ read

theorem exists_first_byte (c : Char) :
    ∃ b bs, String.utf8EncodeChar c = b :: bs ∧
      (b.toNat = c.toNat ∨ 128 ≤ b.toNat ∧ 128 ≤ c.toNat) := by
  have bound := toNat_not_surrogate c
  simp only [String.utf8EncodeChar, Char.toNat_val]
  split
  · exact ⟨_, _, rfl, .inl (by simp only [UInt8.toNat_ofNat']; omega)⟩
  · split
    · exact ⟨_, _, rfl, .inr (by simp only [UInt8.toNat_ofNat']; omega)⟩
    · split
      · exact ⟨_, _, rfl, .inr (by simp only [UInt8.toNat_ofNat']; omega)⟩
      · exact ⟨_, _, rfl, .inr (by simp only [UInt8.toNat_ofNat']; omega)⟩

theorem plain_iff {c : Char} {b : UInt8} {bs : Bytes}
    (encoded : String.utf8EncodeChar c = b :: bs) :
    Plain c ↔ ¬(b = '"'.toUInt8 || b = '\\'.toUInt8) = true ∧ ¬b < ' '.toUInt8 := by
  obtain ⟨_, _, first, same⟩ := exists_first_byte c
  obtain ⟨rfl, rfl⟩ := List.cons.inj (encoded.symm.trans first)
  have byte (d : Char) (n : Nat) (value : d.toUInt8.toNat = n) : b = d.toUInt8 ↔ b.toNat = n := by
    rw [← value, UInt8.toNat_inj]
  have char (d : Char) (n : Nat) (value : d.toNat = n) : c = d ↔ c.toNat = n := by
    rw [← value, Char.toNat_inj]
  have control : b < ' '.toUInt8 ↔ b.toNat < 32 := UInt8.lt_iff_toNat_lt
  have printable : ' ' ≤ c ↔ 32 ≤ c.toNat := UInt32.le_iff_toNat_le
  simp only [Plain, printable, control, Bool.or_eq_true, decide_eq_true_eq, ne_eq,
    byte '"' 34 rfl, byte '\\' 92 rfl, char '"' 34 rfl, char '\\' 92 rfl]
  omega

theorem spells_of_readChars {fuel : Nat} {bs rest : Bytes} {cs : List Char}
    (read : readChars fuel none bs = .ok (cs, rest)) :
    ∃ t, Spells t cs ∧ bs = t ++ '"'.toUInt8 :: rest := by
  induction fuel generalizing bs cs with
  | zero => cases read
  | succ fuel ih =>
    cases bs with
    | nil => cases read
    | cons b bs =>
      rw [readChars] at read
      split at read
      · next delimiter =>
        simp only at read
        split at read
        · next quote =>
          cases read
          exact ⟨[], .nil, by rw [quote]; rfl⟩
        · next notQuote =>
          obtain ⟨⟨c, behind⟩, readHere, read⟩ := bind_eq_ok.1 read
          obtain ⟨⟨cs, rest⟩, readOthers, read⟩ := bind_eq_ok.1 read
          cases read
          obtain ⟨e, escape, here⟩ := (readEscape_eq_ok_iff _ _ _).1 readHere
          obtain ⟨t, spells, others⟩ := ih readOthers
          have backslash : b = '\\'.toUInt8 := by simpa [notQuote] using delimiter
          exact ⟨_, .cons (.escape escape) spells, by simp_all⟩
      · next delimiter =>
        split at read
        · cases read
        · next control =>
          split at read
          · next c behind decoded =>
            obtain ⟨⟨cs, rest⟩, readOthers, read⟩ := bind_eq_ok.1 read
            cases read
            obtain ⟨t, spells, others⟩ := ih readOthers
            have encoded := Utf8.eq_append_of_decodeChar decoded
            obtain ⟨first, bytes, head, -⟩ := exists_first_byte c
            have plain : Plain c := by
              rw [head] at encoded
              obtain ⟨rfl, -⟩ := List.cons.inj encoded
              exact (plain_iff head).2 ⟨delimiter, control⟩
            exact ⟨_, .cons (.plain plain) spells, by rw [encoded, List.append_assoc, ← others]⟩
          · exact absurd read (readChars_of_broken _ _ _ _)

theorem readChars_of_spells {t : Bytes} {cs : List Char} (spells : Spells t cs) (rest : Bytes)
    (fuel : Nat) (enough : t.length < fuel) :
    readChars fuel none (t ++ '"'.toUInt8 :: rest) = .ok (cs, rest) := by
  induction spells generalizing fuel with
  | nil =>
    obtain ⟨fuel, rfl⟩ := Nat.exists_eq_add_one_of_ne_zero (Nat.ne_of_gt enough)
    simp [readChars]
  | @cons t ts c cs char _ ih =>
    obtain ⟨fuel, rfl⟩ : ∃ n, fuel = n + 1 := ⟨fuel - 1, by omega⟩
    rw [List.length_append] at enough
    rw [List.append_assoc]
    cases char with
    | plain plain =>
      obtain ⟨b, bs, head, -⟩ := exists_first_byte c
      obtain ⟨delimiter, control⟩ := (plain_iff head).1 plain
      have others := ih fuel (by rw [head, List.length_cons] at enough; omega)
      have decoded := Utf8.decodeChar_utf8EncodeChar c (ts ++ '"'.toUInt8 :: rest)
      rw [head, List.cons_append] at decoded ⊢
      rw [readChars, if_neg delimiter, if_neg control]
      simp only [decoded]
      exact bind_eq_ok.2 ⟨_, others, rfl⟩
    | escape escape =>
      have others := ih fuel (by rw [List.length_cons] at enough; omega)
      rw [List.cons_append, readChars, if_pos (by decide)]
      simp only
      rw [if_neg (by decide)]
      refine bind_eq_ok.2 ⟨_, (readEscape_eq_ok_iff _ _ _).2 ⟨_, escape, rfl⟩, ?_⟩
      exact bind_eq_ok.2 ⟨_, others, rfl⟩

/-- The reader behind the opening quote. -/
theorem read_eq_ok_iff (bs : Bytes) (s : String) (rest : Bytes) :
    read bs = .ok (s, rest) ↔ ∃ t, Spells t s.toList ∧ bs = t ++ '"'.toUInt8 :: rest := by
  constructor
  · intro given
    obtain ⟨⟨cs, behind⟩, readAll, given⟩ := bind_eq_ok.1 given
    cases given
    rw [String.toList_ofList]
    exact spells_of_readChars readAll
  · rintro ⟨t, spells, rfl⟩
    have readAll := readChars_of_spells spells rest ((t ++ '"'.toUInt8 :: rest).length + 1)
      (by rw [List.length_append]; omega)
    exact bind_eq_ok.2 ⟨_, readAll, by simp only [String.ofList_toList]⟩

theorem spells_plain {cs : List Char} (plain : cs.all (Plain ·) = true) :
    Spells (cs.flatMap String.utf8EncodeChar) cs := by
  induction cs with
  | nil => exact .nil
  | cons c cs ih =>
    obtain ⟨here, others⟩ := Bool.and_eq_true_iff.1 plain
    exact .cons (.plain (of_decide_eq_true here)) (ih others)

/-! ## Strings that need not be text -/

/-- A character or an escape as the grammar has it, which asks nothing of surrogates. -/
inductive Piece : Bytes → Prop
  | plain {c : Char} (plain : Plain c) : Piece (String.utf8EncodeChar c)
  | short {letter c : Char} (mem : (letter, c) ∈ shortEscapes) :
      Piece ['\\'.toUInt8, letter.toUInt8]
  | unicode {ds : Bytes} {n : Nat} (hex : Hex4 ds n) : Piece ('\\'.toUInt8 :: 'u'.toUInt8 :: ds)

inductive Pieces : Bytes → Prop
  | nil : Pieces []
  | cons {t ts : Bytes} (piece : Piece t) (others : Pieces ts) : Pieces (t ++ ts)

theorem Spells.pieces {t : Bytes} {cs : List Char} (spells : Spells t cs) : Pieces t := by
  induction spells with
  | nil => exact .nil
  | cons char _ others =>
    cases char with
    | plain plain => exact .cons (.plain plain) others
    | escape escape =>
      cases escape with
      | short mem => exact .cons (.short mem) others
      | unicode unicode =>
        cases unicode with
        | scalar hex => exact .cons (.unicode hex) others
        | pair hexHigh hexLow =>
          simpa using Pieces.cons (.unicode hexHigh) (.cons (.unicode hexLow) others)

end JsonText
end FleetWatch
