import FleetWatch.Proofs.Number.Digits
import FleetWatch.Toml.Statement
import Mathlib.Algebra.Group.Nat.Defs
import Mathlib.Data.List.Forall2

/-!
# Plain texts

The texts that write a value as a basic string, as decimal digits or as a word, and the lines in
which such values stand behind bare keys.

* `readBasic_spells`: however its characters are escaped, a string is read as it was.
* `readValue_plain`: a value is read from every text that writes it.
* `readStatements_text`: a text is read as what its lines say.
-/

namespace FleetWatch.Toml

/-! ## Strings -/

/-- A hexadecimal digit and its value. -/
def HexDigit (c : Char) (k : Nat) : Prop :=
  "0123456789abcdef".toList[k]? = some c ∨ "0123456789ABCDEF".toList[k]? = some c

/-- Hexadecimal digits, the greatest first, and their value. -/
inductive Hex : List Char → Nat → Prop
  | nil : Hex [] 0
  | concat {ds : List Char} {n : Nat} {d : Char} {k : Nat} (front : Hex ds n)
      (digit : HexDigit d k) : Hex (ds ++ [d]) (n * 16 + k)

def shortEscapes : List (Char × Char) :=
  [('b', '\x08'), ('t', '\t'), ('n', '\n'), ('f', '\x0c'), ('r', '\r'), ('"', '"'), ('\\', '\\')]

/-- The ways to write a character in a basic string. -/
inductive SpellsChar : List Char → Char → Prop
  | plain {c : Char} (visible : isVisible c = true) (noQuote : c ≠ '"') (noEscape : c ≠ '\\') :
      SpellsChar [c] c
  | short {letter c : Char} (mem : (letter, c) ∈ shortEscapes) : SpellsChar ['\\', letter] c
  | code {ds : List Char} {c : Char} (four : ds.length = 4) (hex : Hex ds c.toNat) :
      SpellsChar ('\\' :: 'u' :: ds) c
  | longCode {ds : List Char} {c : Char} (eight : ds.length = 8) (hex : Hex ds c.toNat) :
      SpellsChar ('\\' :: 'U' :: ds) c

/-- The texts between quotes that write a list of characters. -/
inductive Spells : List Char → List Char → Prop
  | nil : Spells [] []
  | cons {t ts : List Char} {c : Char} {cs : List Char} (char : SpellsChar t c)
      (others : Spells ts cs) : Spells (t ++ ts) (c :: cs)

theorem hexValue?_eq_some {c : Char} {k : Nat} (digit : HexDigit c k) : hexValue? c = some k := by
  have each (digits : List Char) (all : ∀ i : Fin digits.length, hexValue? digits[i] = some i.val)
      (here : digits[k]? = some c) : hexValue? c = some k := by
    obtain ⟨bound, rfl⟩ := List.getElem?_eq_some_iff.1 here
    exact all ⟨k, bound⟩
  rcases digit with lower | upper
  · exact each _ (by decide) lower
  · exact each _ (by decide) upper

theorem readHex_append {ds : List Char} {n : Nat} (hex : Hex ds n) (rest : List Char)
    (count : Nat) :
    readHex (ds.length + count) 0 (ds ++ rest) = readHex count n rest := by
  induction hex generalizing rest count with
  | nil => simp
  | @concat ds n d k front digit ih =>
    have step : readHex (count + 1) n (d :: rest) = readHex count (n * 16 + k) rest := by
      simp [readHex, hexValue?_eq_some digit]
    rw [← step, ← ih, List.length_append, List.append_assoc, List.length_singleton, Nat.add_assoc,
      Nat.add_comm 1]
    rfl

theorem readCode_hex {ds : List Char} {c : Char} (hex : Hex ds c.toNat) (rest : List Char) :
    readCode ds.length (ds ++ rest) = some (c, rest) := by
  have read : readHex ds.length 0 (ds ++ rest) = some (c.toNat, rest) := readHex_append hex rest 0
  have valid : c.toNat.isValidChar := c.valid
  rw [readCode, read]
  simp [valid, Char.ofNat_toNat]

theorem readEscape_short {letter c : Char} (mem : (letter, c) ∈ shortEscapes) (rest : List Char) :
    readEscape (letter :: rest) = some (c, rest) := by
  simp only [shortEscapes, List.mem_cons, List.not_mem_nil, or_false, Prod.mk.injEq] at mem
  rcases mem with ⟨rfl, rfl⟩ | ⟨rfl, rfl⟩ | ⟨rfl, rfl⟩ | ⟨rfl, rfl⟩ | ⟨rfl, rfl⟩ | ⟨rfl, rfl⟩ |
    ⟨rfl, rfl⟩ <;> rfl

theorem readBasic_char {t : List Char} {c : Char} (char : SpellsChar t c) (fuel : Nat)
    (rest : List Char) : readBasic (fuel + 1) (t ++ rest) =
      (readBasic fuel rest).map fun (ds, rest) => (c :: ds, rest) := by
  cases char with
  | plain visible noQuote noEscape => simp [readBasic, visible, noQuote, noEscape]
  | short mem => simp [readBasic, readEscape_short mem]
  | @code ds _ four hex =>
    have read := readCode_hex hex rest
    rw [four] at read
    simp [readBasic, readEscape, read]
  | @longCode ds _ eight hex =>
    have read := readCode_hex hex rest
    rw [eight] at read
    simp [readBasic, readEscape, read]

theorem readBasic_spells {t cs : List Char} (spells : Spells t cs) (rest : List Char) {fuel : Nat}
    (enough : cs.length < fuel) : readBasic fuel (t ++ '"' :: rest) = some (cs, rest) := by
  obtain ⟨fuel, rfl⟩ := Nat.exists_eq_add_of_lt enough
  clear enough
  induction spells generalizing fuel with
  | nil => simp [readBasic]
  | @cons t ts c cs char others ih =>
    have shift : (c :: cs).length + fuel + 1 = cs.length + fuel + 1 + 1 := by
      simp only [List.length_cons]
      omega
    rw [shift, List.append_assoc, readBasic_char char, ih, Option.map_some]

theorem length_le_of_spells {t cs : List Char} (spells : Spells t cs) : cs.length ≤ t.length := by
  induction spells with
  | nil => exact Nat.le_refl _
  | @cons t ts _ _ char _ ih =>
    have one : 1 ≤ t.length := by
      cases char <;> exact Nat.le_add_left _ _
    simp only [List.length_append, List.length_cons]
    omega

theorem startsText_of_second {quote second : Char} (other : second ≠ quote) (first : Char)
    (rest : List Char) : startsText quote (first :: second :: rest) = false := by
  cases rest with
  | nil => rfl
  | cons third rest => simp [startsText, other]

theorem not_startsText {t cs : List Char} (spells : Spells t cs) (rest : List Char) :
    startsText '"' ('"' :: (t ++ '"' :: '\n' :: rest)) = false := by
  cases spells with
  | nil => rfl
  | cons char others =>
    cases char with
    | plain visible noQuote noEscape => exact startsText_of_second noQuote _ _
    | short mem => exact startsText_of_second (by decide) _ _
    | code four hex => exact startsText_of_second (by decide) _ _
    | longCode eight hex => exact startsText_of_second (by decide) _ _

theorem readString_spells {t : List Char} {s : String} (spells : Spells t s.toList)
    (rest : List Char) :
    readString '"' ('"' :: (t ++ '"' :: '\n' :: rest)) = some (s, '\n' :: rest) := by
  have enough : s.toList.length < (t ++ '"' :: '\n' :: rest).length + 1 := by
    have least := length_le_of_spells spells
    simp only [List.length_append, List.length_cons]
    omega
  have read : readShort '"' (t ++ '"' :: '\n' :: rest) = some (s.toList, '\n' :: rest) :=
    readBasic_spells spells _ enough
  simp [readString, not_startsText spells, read]

/-! ## Words -/

theorem splitWord_append {word : List Char} (all : ∀ c ∈ word, isWordChar c = true)
    (rest : List Char) : splitWord (word ++ '\n' :: rest) = (word, '\n' :: rest) := by
  have stop : isWordChar '\n' = false := by decide
  simp [splitWord, List.takeWhile_append_of_pos all, List.dropWhile_append_of_pos all, stop]

theorem expect?_eq_none {c : Char} {cs : List Char} (absent : c ∉ cs) : expect? c cs = none := by
  cases cs with
  | nil => rfl
  | cons d cs => exact if_neg fun same : c = d => absent (same ▸ List.mem_cons_self)

theorem eq_drop_of_fixed? {count n : Nat} {cs rest : List Char}
    (read : fixed? count cs = some (n, rest)) : rest = cs.drop count := by
  unfold fixed? at read
  simp only at read
  split at read
  · cases read
    rfl
  · cases read

theorem isMoment_of_digits {word : List Char} (digits : ∀ c ∈ word, c.isDigit = true) :
    isMoment word = false := by
  -- A time and a date both have a mark behind their first digits.
  have stops (c : Char) (other : c.isDigit = false) {count n : Nat} {rest : List Char}
      (read : fixed? count word = some (n, rest)) : expect? c rest = none := by
    refine expect?_eq_none fun member => ?_
    rw [eq_drop_of_fixed? read] at member
    simp [digits c (List.mem_of_mem_drop member)] at other
  have noTime : afterTime? word = none := by
    unfold afterTime?
    cases hour : fixed? 2 word with
    | none => rfl
    | some p => simp [stops ':' (by decide) hour]
  have noDate : afterDate? word = none := by
    unfold afterDate?
    cases year : fixed? 4 word with
    | none => rfl
    | some p => simp [stops '-' (by decide) year]
  simp [isMoment, isTime, noTime, noDate]

theorem foldl_digits {ds : List Char} (digits : ∀ c ∈ ds, c.isDigit = true) (n : Nat) :
    ds.foldl (fun m c => m * 10 + (hexValue? c).getD 0) n = Nat.ofDigitChars 10 ds n := by
  induction ds generalizing n with
  | nil => rfl
  | cons d ds ih =>
    obtain ⟨digit, others⟩ := List.forall_mem_cons.1 digits
    rw [List.foldl_cons, ih others, Nat.ofDigitChars_cons, Nat.mul_comm]
    simp [hexValue?, digit]

theorem decimal?_toDigits (n : Nat) : decimal? (Nat.toDigits 10 n) = some n := by
  have plain := not_mem_toDigits (c := '_') (by decide) n
  have kept : (Nat.toDigits 10 n).filter (· != '_') = Nat.toDigits 10 n := by
    refine List.filter_eq_self.2 fun c member => ?_
    simpa using fun same : c = '_' => plain (same ▸ member)
  have part : (!(Nat.toDigits 10 n).isEmpty && (Nat.toDigits 10 n).all Char.isDigit) = true := by
    simpa [Nat.toDigits_ne_nil] using fun c => isDigit_of_mem_toDigits
  simp only [decimal?, digits?, List.splitOn_eq_singleton plain, List.all_cons, List.all_nil, part,
    Bool.and_true, if_true, kept, foldl_digits fun c => isDigit_of_mem_toDigits,
    Nat.ofDigitChars_ten_toDigits]

theorem whole?_toDigits (n : Nat) : whole? (Nat.toDigits 10 n) = some n := by
  unfold whole?
  split
  next ds zero =>
    cases n with
    | zero => simp at zero
    | succ n => exact absurd zero (toDigits_ne_zero_cons (Nat.succ_pos n) _)
  next => exact decimal?_toDigits n

theorem splitSign_toDigits (n : Nat) :
    splitSign (Nat.toDigits 10 n) = (false, Nat.toDigits 10 n) := by
  unfold splitSign
  split
  next cs minus =>
    exact absurd (minus ▸ List.mem_cons_self) (not_mem_toDigits (c := '-') (by decide) n)
  next cs plus =>
    exact absurd (plus ▸ List.mem_cons_self) (not_mem_toDigits (c := '+') (by decide) n)
  next => rfl

theorem integer?_toDigits {n : Nat} (fits : n < 2 ^ 63) :
    integer? (Nat.toDigits 10 n) = some n := by
  have decimal {mark : Char} {ds : List Char} (other : mark.isDigit = false)
      (based : Nat.toDigits 10 n = '0' :: mark :: ds) : False :=
    not_mem_toDigits other n (based ▸ List.mem_cons_of_mem _ List.mem_cons_self)
  unfold integer?
  split
  next ds based => exact (decimal (by decide) based).elim
  next ds based => exact (decimal (by decide) based).elim
  next ds based => exact (decimal (by decide) based).elim
  next =>
    have least : Int64.minValue.toInt = -2 ^ 63 := by decide
    have most : Int64.maxValue.toInt = 2 ^ 63 - 1 := by decide
    simp only [splitSign_toDigits, whole?_toDigits, Option.bind_some, inRange]
    exact if_pos (by constructor <;> simp only [Bool.false_eq_true, if_false] <;> omega)

theorem wordValue?_toDigits {n : Nat} (fits : n < 2 ^ 63) :
    wordValue? (Nat.toDigits 10 n) = some (.integer n) := by
  have noTrue : Nat.toDigits 10 n ≠ "true".toList := fun same =>
    not_mem_toDigits (c := 't') (by decide) n (same ▸ by decide)
  have noFalse : Nat.toDigits 10 n ≠ "false".toList := fun same =>
    not_mem_toDigits (c := 'f') (by decide) n (same ▸ by decide)
  rw [wordValue?, if_neg noTrue, if_neg noFalse,
    isMoment_of_digits fun c => isDigit_of_mem_toDigits, integer?_toDigits fits]
  rfl

/-! ## Values -/

/-- A value that a plain text writes. -/
inductive Plain where
  | text (s : String)
  | number (n : Nat)
  | truth (b : Bool)

def Plain.scalar : Plain → Scalar
  | text s => .string s
  | number n => .integer n
  | truth b => .boolean b

/-- The texts of a value: basic strings, decimal digits, a word. -/
inductive WritesPlain : List Char → Plain → Prop
  | text {t : List Char} {s : String} (spells : Spells t s.toList) :
      WritesPlain ('"' :: (t ++ ['"'])) (.text s)
  | number (n : Nat) : WritesPlain (Nat.toDigits 10 n) (.number n)
  | yes : WritesPlain "true".toList (.truth true)
  | no : WritesPlain "false".toList (.truth false)

/-- A number is one of 64 bits. -/
def Plain.Fits (x : Plain) : Prop := ∀ n, x = .number n → n < 2 ^ 63

theorem readValue_word {word : List Char} {x : Scalar} (value : wordValue? word = some x)
    (all : word.all isWordChar = true) (nonempty : word ≠ []) (depth : Nat) (rest : List Char) :
    ∃ span, readValue depth (word ++ '\n' :: rest) = some (.scalar span x, '\n' :: rest) := by
  cases word with
  | nil => exact absurd rfl nonempty
  | cons c word =>
    have first := List.all_eq_true.1 all c List.mem_cons_self
    have noQuote : ¬ (c = '"' ∨ c = '\'') := by
      rintro (rfl | rfl) <;> exact absurd first (by decide)
    have noArray : c ≠ '[' := by
      rintro rfl
      exact absurd first (by decide)
    have noTable : c ≠ '\x7b' := by
      rintro rfl
      exact absurd first (by decide)
    have split := splitWord_append (List.all_eq_true.1 all) rest
    rw [List.cons_append] at split ⊢
    rw [readValue.eq_def]
    simp [noQuote, noArray, noTable, split, value]

theorem readValue_plain {t : List Char} {x : Plain} (writes : WritesPlain t x) (fits : x.Fits)
    (depth : Nat) (rest : List Char) :
    ∃ span, readValue depth (t ++ '\n' :: rest) = some (.scalar span x.scalar, '\n' :: rest) := by
  cases writes with
  | @text t s spells =>
    rw [List.cons_append, List.append_assoc, List.cons_append, List.nil_append, readValue.eq_def]
    simp [readString_spells spells, Plain.scalar]
  | number n =>
    refine readValue_word (wordValue?_toDigits (fits n rfl)) (List.all_eq_true.2 fun c member => ?_)
      Nat.toDigits_ne_nil depth rest
    simp [isWordChar, Char.isAlphanum, isDigit_of_mem_toDigits member]
  | yes => exact readValue_word rfl (by decide) (by decide) depth rest
  | no => exact readValue_word rfl (by decide) (by decide) depth rest

/-! ## Lines -/

/-- A key that needs no quotes. -/
def IsBare (name : String) : Prop := name.toList ≠ [] ∧ name.toList.all isBareKeyChar = true

instance (name : String) : Decidable (IsBare name) :=
  inferInstanceAs (Decidable (name.toList ≠ [] ∧ name.toList.all isBareKeyChar = true))

/-- What a line tells, with keys of one part. -/
inductive Line where
  | table (name : String)
  | item (name : String)
  | pair (name : String) (value : Plain)
  | emptyArray (name : String)

/-- The texts of a line. -/
inductive WritesLine : List Char → Line → Prop
  | table {name : String} (bare : IsBare name) :
      WritesLine ('[' :: (name.toList ++ "]\n".toList)) (.table name)
  | item {name : String} (bare : IsBare name) :
      WritesLine ('[' :: '[' :: (name.toList ++ "]]\n".toList)) (.item name)
  | pair {name : String} {t : List Char} {x : Plain} (bare : IsBare name)
      (value : WritesPlain t x) :
      WritesLine (name.toList ++ " = ".toList ++ t ++ ['\n']) (.pair name x)
  | emptyArray {name : String} (bare : IsBare name) :
      WritesLine (name.toList ++ " = []\n".toList) (.emptyArray name)

/-- The texts of lines, with empty lines anywhere between them. -/
inductive WritesLines : List Char → List Line → Prop
  | nil : WritesLines [] []
  | blank {t : List Char} {lines : List Line} (others : WritesLines t lines) :
      WritesLines ('\n' :: t) lines
  | line {t ts : List Char} {line : Line} {lines : List Line} (writes : WritesLine t line)
      (others : WritesLines ts lines) : WritesLines (t ++ ts) (line :: lines)

def Line.Fits : Line → Prop
  | .pair _ x => x.Fits
  | _ => True

/-- A statement is what a line tells, wherever it stands in its text. -/
inductive Line.Tells : Line → Statement → Prop
  | table {name : String} (key span : Span) :
      Tells (.table name) (.header ⟨[], name, key⟩ span)
  | item {name : String} (key span : Span) :
      Tells (.item name) (.arrayHeader ⟨[], name, key⟩ span)
  | pair {name : String} {x : Plain} (key span : Span) :
      Tells (.pair name x) (.pair ⟨[], name, key⟩ (.scalar span x.scalar))
  | emptyArray {name : String} (key span : Span) :
      Tells (.emptyArray name) (.pair ⟨[], name, key⟩ (.array span []))

theorem exists_bare {name : String} (bare : IsBare name) :
    ∃ c cs, name.toList = c :: cs ∧ isBareKeyChar c = true := by
  obtain ⟨nonempty, all⟩ := bare
  cases front : name.toList with
  | nil => exact absurd front nonempty
  | cons c cs => exact ⟨c, cs, rfl, List.all_eq_true.1 all c (front ▸ List.mem_cons_self)⟩

theorem append_ne_bracket {name : String} (bare : IsBare name) (rest cs : List Char) :
    name.toList ++ rest ≠ '[' :: cs := by
  obtain ⟨c, behind, front, first⟩ := exists_bare bare
  intro same
  rw [front] at same
  cases same
  exact absurd first (by decide)

theorem readKeyPart_bare {name : String} (bare : IsBare name) {mark : Char}
    (stop : isBareKeyChar mark = false) (rest : List Char) :
    ∃ span, readKeyPart (name.toList ++ mark :: rest) = some (⟨name, span⟩, mark :: rest) := by
  have all := List.all_eq_true.1 bare.2
  have taken : (name.toList ++ mark :: rest).takeWhile isBareKeyChar = name.toList := by
    rw [List.takeWhile_append_of_pos all, List.takeWhile_cons_of_neg (by simp [stop]),
      List.append_nil]
  have dropped : (name.toList ++ mark :: rest).dropWhile isBareKeyChar = mark :: rest := by
    rw [List.dropWhile_append_of_pos all, List.dropWhile_cons_of_neg (by simp [stop])]
  obtain ⟨c, cs, front, first⟩ := exists_bare bare
  unfold readKeyPart
  split
  next cs' quote =>
    rw [front] at quote
    cases quote
    exact absurd first (by decide)
  next cs' quote =>
    rw [front] at quote
    cases quote
    exact absurd first (by decide)
  next => simp [taken, dropped, bare.1]

theorem not_blank_of {p : Char → Bool} (space : p ' ' = false) (tab : p '\t' = false) {c : Char}
    (holds : p c = true) : isBlank c = false := by
  cases blank : isBlank c with
  | false => rfl
  | true =>
    rcases Bool.or_eq_true_iff.1 blank with here | here <;> rw [beq_iff_eq.1 here] at holds
    · simp [space] at holds
    · simp [tab] at holds

theorem skipBlanks_bare {name : String} (bare : IsBare name) (rest : List Char) :
    skipBlanks (name.toList ++ rest) = name.toList ++ rest := by
  obtain ⟨c, cs, front, first⟩ := exists_bare bare
  have noBlank := not_blank_of (by decide) (by decide) first
  rw [front, skipBlanks, List.cons_append, List.dropWhile_cons_of_neg (by simp [noBlank])]

theorem readPath_bare {name : String} (bare : IsBare name) {mark next : Char}
    (stop : isBareKeyChar mark = false) {rest behind : List Char}
    (blanks : skipBlanks (mark :: rest) = next :: behind) (noDot : next ≠ '.') :
    ∃ key, readPath maxDepth (name.toList ++ mark :: rest) =
      some (⟨[], name, key⟩, next :: behind) := by
  obtain ⟨key, part⟩ := readKeyPart_bare bare stop rest
  refine ⟨key, ?_⟩
  rw [maxDepth, readPath, skipBlanks_bare bare, part]
  simp [blanks, noDot]

theorem readHeader_table {name : String} (bare : IsBare name) (start : Nat) (rest : List Char) :
    ∃ key, readHeader start (name.toList ++ ']' :: rest) =
      some (.header ⟨[], name, key⟩ ⟨start, rest.length⟩, rest) := by
  obtain ⟨key, path⟩ := readPath_bare bare (by decide) (show skipBlanks (']' :: rest) = _ from rfl)
    (by decide)
  unfold readHeader
  split
  next behind bracket => exact absurd bracket (append_ne_bracket bare _ _)
  next => exact ⟨key, by simp only [path]⟩

theorem readHeader_item {name : String} (bare : IsBare name) (start : Nat) (rest : List Char) :
    ∃ key, readHeader start ('[' :: (name.toList ++ ']' :: ']' :: rest)) =
      some (.arrayHeader ⟨[], name, key⟩ ⟨start, rest.length⟩, rest) := by
  obtain ⟨key, path⟩ := readPath_bare bare (by decide)
    (show skipBlanks (']' :: ']' :: rest) = _ from rfl) (by decide)
  exact ⟨key, by simp only [readHeader, path]⟩

theorem readPair_bare {name : String} (bare : IsBare name) {item : Reader Toml} {v : Toml}
    {c : Char} {cs rest : List Char} (noBlank : isBlank c = false)
    (read : item (c :: cs) = some (v, rest)) :
    ∃ key, readPair item (name.toList ++ ' ' :: '=' :: ' ' :: c :: cs) =
      some ((⟨[], name, key⟩, v), rest) := by
  obtain ⟨key, path⟩ := readPath_bare bare (by decide)
    (show skipBlanks (' ' :: '=' :: ' ' :: c :: cs) = _ from rfl) (by decide)
  have blank : skipBlanks (' ' :: c :: cs) = c :: cs := by
    rw [skipBlanks, List.dropWhile_cons_of_pos (by decide),
      List.dropWhile_cons_of_neg (by simp [noBlank])]
  exact ⟨key, by simp [readPair, path, blank, read]⟩

theorem endLine_lineEnd (rest : List Char) : endLine ('\n' :: rest) = some rest := by
  simp [endLine, skipComment, skipBlanks, isBlank, afterLineEnd?]

theorem readStatement_bracket {cs rest : List Char} {s : Statement}
    (read : readHeader (cs.length + 1) cs = some (s, '\n' :: rest)) :
    readStatement ('[' :: cs) = some (s, rest) := by
  simp [readStatement, read, endLine_lineEnd]

theorem readStatement_pair {name : String} (bare : IsBare name) {cs rest : List Char}
    {path : Path} {v : Toml}
    (read : readPair (readValue maxDepth) (name.toList ++ cs) = some ((path, v), '\n' :: rest)) :
    readStatement (name.toList ++ cs) = some (.pair path v, rest) := by
  unfold readStatement
  split
  next behind bracket => exact absurd bracket (append_ne_bracket bare _ _)
  next => simp [read, endLine_lineEnd]

theorem exists_of_writesPlain {t : List Char} {x : Plain} (writes : WritesPlain t x) :
    ∃ c cs, t = c :: cs ∧ isBlank c = false := by
  cases writes with
  | text spells => exact ⟨_, _, rfl, by decide⟩
  | number n =>
    cases digits : Nat.toDigits 10 n with
    | nil => exact absurd digits Nat.toDigits_ne_nil
    | cons c cs =>
      have digit : c.isDigit = true := isDigit_of_mem_toDigits (digits ▸ List.mem_cons_self)
      exact ⟨c, cs, rfl, not_blank_of (by decide) (by decide) digit⟩
  | yes => exact ⟨_, _, rfl, by decide⟩
  | no => exact ⟨_, _, rfl, by decide⟩

theorem readValue_emptyArray (rest : List Char) :
    ∃ span, readValue maxDepth ('[' :: ']' :: rest) = some (.array span [], rest) := by
  rw [maxDepth, readValue.eq_def]
  simp [readItems, skipLines, skipComment, skipBlanks, isBlank, afterLineEnd?]

theorem readStatement_line {t : List Char} {line : Line} (writes : WritesLine t line)
    (fits : line.Fits) (rest : List Char) :
    ∃ statement, readStatement (t ++ rest) = some (statement, rest) ∧ line.Tells statement := by
  cases writes with
  | @table name bare =>
    obtain ⟨key, header⟩ := readHeader_table bare _ ('\n' :: rest)
    have read := readStatement_bracket header
    exact ⟨_, by simpa using read, .table _ _⟩
  | @item name bare =>
    obtain ⟨key, header⟩ := readHeader_item bare _ ('\n' :: rest)
    have read := readStatement_bracket header
    exact ⟨_, by simpa using read, .item _ _⟩
  | @pair name t x bare writes =>
    obtain ⟨span, value⟩ := readValue_plain writes fits maxDepth rest
    obtain ⟨c, cs, rfl, noBlank⟩ := exists_of_writesPlain writes
    obtain ⟨key, pair⟩ := readPair_bare bare noBlank value
    have read := readStatement_pair bare pair
    exact ⟨_, by simpa using read, .pair _ _⟩
  | @emptyArray name bare =>
    obtain ⟨span, value⟩ := readValue_emptyArray ('\n' :: rest)
    obtain ⟨key, pair⟩ := readPair_bare bare (by decide) value
    have read := readStatement_pair bare pair
    exact ⟨_, by simpa using read, .emptyArray _ _⟩

theorem starts_of_writesLine {t : List Char} {line : Line} (writes : WritesLine t line) :
    ∃ c cs, t = c :: cs ∧ (c = '[' ∨ isBareKeyChar c = true) := by
  cases writes with
  | table bare => exact ⟨_, _, rfl, .inl rfl⟩
  | item bare => exact ⟨_, _, rfl, .inl rfl⟩
  | @pair _ t _ bare value =>
    obtain ⟨c, cs, front, first⟩ := exists_bare bare
    exact ⟨c, cs ++ " = ".toList ++ t ++ ['\n'], by rw [front]; rfl, .inr first⟩
  | emptyArray bare =>
    obtain ⟨c, cs, front, first⟩ := exists_bare bare
    exact ⟨c, cs ++ " = []\n".toList, by rw [front]; rfl, .inr first⟩

theorem skipLines_line {t : List Char} {line : Line} (writes : WritesLine t line)
    (rest : List Char) (fuel : Nat) : skipLines fuel (t ++ rest) = t ++ rest := by
  obtain ⟨c, cs, rfl, starts⟩ := starts_of_writesLine writes
  have noBlank : isBlank c = false := by
    rcases starts with rfl | bare
    · rfl
    · exact not_blank_of (by decide) (by decide) bare
  have other (mark : Char) (noBracket : mark ≠ '[') (noKey : isBareKeyChar mark = false) :
      c ≠ mark := by
    rintro rfl
    rcases starts with same | bare
    · exact noBracket same
    · simp [noKey] at bare
  have comment : skipComment (c :: (cs ++ rest)) = c :: (cs ++ rest) := by
    rw [skipComment, skipBlanks, List.dropWhile_cons_of_neg (by simp [noBlank])]
    split
    next same => exact absurd (List.cons.inj same).1 (other '#' (by decide) (by decide))
    next => rfl
  have inner : afterLineEnd? (c :: (cs ++ rest)) = none := by
    unfold afterLineEnd?
    split
    next same => exact absurd (List.cons.inj same).1 (other '\n' (by decide) (by decide))
    next same => exact absurd (List.cons.inj same).1 (other '\r' (by decide) (by decide))
    next => rfl
  cases fuel with
  | zero => rfl
  | succ fuel => rw [List.cons_append, skipLines, comment, inner]

theorem readStatements_text {t : List Char} {lines : List Line} (writes : WritesLines t lines)
    (fits : ∀ line ∈ lines, line.Fits) {fuel : Nat} (enough : lines.length < fuel) :
    ∃ statements, readStatements fuel t = some statements ∧
      List.Forall₂ Line.Tells lines statements := by
  obtain ⟨fuel, rfl⟩ := Nat.exists_eq_add_of_lt enough
  clear enough
  induction writes generalizing fuel with
  | nil => exact ⟨[], by simp [readStatements, skipLines], .nil⟩
  | @blank t lines others ih =>
    obtain ⟨statements, read, told⟩ := ih fits fuel
    refine ⟨statements, ?_, told⟩
    have blank : skipLines (t.length + 1) ('\n' :: t) = skipLines t.length t := by
      simp [skipLines, skipComment, skipBlanks, isBlank, afterLineEnd?]
    rw [← read, readStatements, List.length_cons, blank, readStatements]
  | @line t ts line lines writes others ih =>
    obtain ⟨here, later⟩ := List.forall_mem_cons.1 fits
    obtain ⟨statements, read, told⟩ := ih later fuel
    obtain ⟨s, first, toldFirst⟩ := readStatement_line writes here ts
    refine ⟨s :: statements, ?_, .cons toldFirst told⟩
    obtain ⟨c, cs, rfl, -⟩ := starts_of_writesLine writes
    have shift : (line :: lines).length + fuel + 1 = lines.length + fuel + 1 + 1 := by
      simp only [List.length_cons]
      omega
    rw [List.cons_append] at first
    rw [shift, readStatements, skipLines_line writes, List.cons_append]
    simp [first, read]

theorem length_le_of_writesLines {t : List Char} {lines : List Line}
    (writes : WritesLines t lines) : lines.length ≤ t.length := by
  induction writes with
  | nil => exact Nat.le_refl _
  | blank _ ih => exact Nat.le_succ_of_le ih
  | line writes _ ih =>
    obtain ⟨c, cs, rfl, -⟩ := starts_of_writesLine writes
    simp only [List.length_append, List.length_cons]
    omega

theorem not_marked_of_writesLines {t : List Char} {lines : List Line}
    (writes : WritesLines t lines) : t.head? ≠ some '\ufeff' := by
  cases writes with
  | nil => decide
  | blank => exact ne_of_beq_false rfl
  | line writes _ =>
    obtain ⟨c, cs, rfl, starts⟩ := starts_of_writesLine writes
    intro mark
    cases Option.some.inj mark
    exact absurd starts (by decide)

/-! ## Printed lines -/

def escapeChar (c : Char) : List Char :=
  match shortEscapes.find? (·.2 == c) with
  | some (letter, _) => ['\\', letter]
  | none =>
    if isVisible c then [c]
    else ['\\', 'u', '0', '0', Nat.digitChar (c.toNat / 16), Nat.digitChar (c.toNat % 16)]

def Plain.chars : Plain → List Char
  | text s => '"' :: (s.toList.flatMap escapeChar ++ ['"'])
  | number n => Nat.toDigits 10 n
  | truth true => "true".toList
  | truth false => "false".toList

def Line.chars : Line → List Char
  | table name => '[' :: (name.toList ++ "]\n".toList)
  | item name => '[' :: '[' :: (name.toList ++ "]]\n".toList)
  | pair name x => name.toList ++ " = ".toList ++ x.chars ++ ['\n']
  | emptyArray name => name.toList ++ " = []\n".toList

def Line.name : Line → String
  | table name => name
  | item name => name
  | pair name _ => name
  | emptyArray name => name

theorem hexDigit_digitChar {k : Nat} (small : k < 16) : HexDigit (Nat.digitChar k) k := by
  have all : ∀ i : Fin 16, "0123456789abcdef".toList[i.val]? = some (Nat.digitChar i) := by decide
  exact .inl (all ⟨k, small⟩)

theorem lt_of_not_visible {c : Char} (hidden : isVisible c = false) : c.toNat < 0x80 := by
  simp only [isVisible, Bool.or_eq_false_iff, decide_eq_false_iff_not] at hidden
  omega

theorem spellsChar_escapeChar (c : Char) : SpellsChar (escapeChar c) c := by
  unfold escapeChar
  split
  next letter d found =>
    have same : d = c := by simpa using List.find?_some found
    exact .short (same ▸ List.mem_of_find?_eq_some found)
  next none =>
    have others : ∀ p ∈ shortEscapes, p.2 ≠ c := by simpa using List.find?_eq_none.1 none
    split
    next visible =>
      exact .plain visible (others ('"', '"') (by decide)).symm
        (others ('\\', '\\') (by decide)).symm
    next hidden =>
      have small : c.toNat < 0x80 := lt_of_not_visible (by simpa using hidden)
      have zero : HexDigit '0' 0 := .inl rfl
      have hex := ((Hex.nil.concat zero).concat zero).concat
        (hexDigit_digitChar (k := c.toNat / 16) (by omega))
      have hex := hex.concat (hexDigit_digitChar (k := c.toNat % 16) (by omega))
      refine .code rfl ?_
      have value : (((0 * 16 + 0) * 16 + 0) * 16 + c.toNat / 16) * 16 + c.toNat % 16 = c.toNat := by
        omega
      rw [value] at hex
      exact hex

theorem spells_escaped (cs : List Char) : Spells (cs.flatMap escapeChar) cs := by
  induction cs with
  | nil => exact .nil
  | cons c cs ih => exact .cons (spellsChar_escapeChar c) ih

theorem writesPlain_chars (x : Plain) : WritesPlain x.chars x := by
  cases x with
  | text s => exact .text (spells_escaped s.toList)
  | number n => exact .number n
  | truth b =>
    cases b with
    | true => exact .yes
    | false => exact .no

theorem writesLine_chars {line : Line} (bare : IsBare line.name) : WritesLine line.chars line := by
  cases line with
  | table name => exact .table bare
  | item name => exact .item bare
  | pair name x => exact .pair bare (writesPlain_chars x)
  | emptyArray name => exact .emptyArray bare

theorem writesLines_chars {lines : List Line} (bare : ∀ line ∈ lines, IsBare line.name) :
    WritesLines (lines.flatMap Line.chars) lines := by
  induction lines with
  | nil => exact .nil
  | cons line lines ih =>
    obtain ⟨first, others⟩ := List.forall_mem_cons.1 bare
    exact .line (writesLine_chars first) (ih others)

end FleetWatch.Toml
