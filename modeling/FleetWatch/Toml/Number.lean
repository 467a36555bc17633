import FleetWatch.Toml.Text
import FleetWatch.Toml.Value

/-!
# Numbers and moments in TOML

The value of a bare word: a boolean, an integer of 64 bits, a double, or a date, a time or both.
-/

namespace FleetWatch.Toml

/-- Digits of a base with single underscores between them, as a number. -/
def digits? (isDigit : Char → Bool) (base : Nat) (cs : List Char) : Option Nat :=
  let parts := cs.splitOn '_'
  if parts.all (fun part => !part.isEmpty && part.all isDigit) then
    some ((cs.filter (· != '_')).foldl (fun n c => n * base + (hexValue? c).getD 0) 0)
  else none

def decimal? (cs : List Char) : Option Nat := digits? Char.isDigit 10 cs

def whole? (cs : List Char) : Option Nat :=
  match cs with
  | '0' :: _ :: _ => none
  | _ => decimal? cs

def splitSign : List Char → Bool × List Char
  | '-' :: cs => (true, cs)
  | '+' :: cs => (false, cs)
  | cs => (false, cs)

def inRange (i : Int) : Option Int :=
  if Int64.minValue.toInt ≤ i ∧ i ≤ Int64.maxValue.toInt then some i else none

def integer? (word : List Char) : Option Int :=
  match word with
  | '0' :: 'x' :: ds => (digits? (fun c => (hexValue? c).isSome) 16 ds).bind (inRange ·)
  | '0' :: 'o' :: ds => (digits? (fun c => '0' ≤ c && c ≤ '7') 8 ds).bind (inRange ·)
  | '0' :: 'b' :: ds => (digits? (fun c => c == '0' || c == '1') 2 ds).bind (inRange ·)
  | _ =>
    let (negative, ds) := splitSign word
    (whole? ds).bind fun n => inRange (if negative then -(n : Int) else n)

/-- The double that a word writes; one that is too great is none, but a negative one is infinite. -/
def float? (word : List Char) : Option Binary64 :=
  let (negative, cs) := splitSign word
  if cs = "inf".toList then some (Binary64.infinity negative)
  else if cs = "nan".toList then some (Binary64.nan negative)
  else
    let isExponent (c : Char) := c == 'e' || c == 'E'
    let mantissa := cs.takeWhile (!isExponent ·)
    let exponent := cs.dropWhile (!isExponent ·)
    let whole := mantissa.takeWhile (· != '.')
    let fraction := mantissa.dropWhile (· != '.')
    if fraction.isEmpty && exponent.isEmpty then none
    else do
      let _ ← whole? whole
      let fractionDigits := (fraction.drop 1).filter (· != '_')
      if !fraction.isEmpty then
        let _ ← decimal? (fraction.drop 1)
      let (down, exponentDigits) := splitSign (exponent.drop 1)
      let shift ← if exponent.isEmpty then some 0 else decimal? exponentDigits
      let digits ← decimal? (whole ++ fractionDigits)
      let x := Binary64.ofDecimal negative digits
        ((if down then -(shift : Int) else shift) - fractionDigits.length)
      if x = Binary64.infinity false then none else some x

/-! ## Moments -/

def fixed? (count : Nat) : Reader Nat := fun cs =>
  let ds := cs.take count
  if ds.length = count && ds.all Char.isDigit then some (Nat.ofDigitChars 10 ds 0, cs.drop count)
  else none

def expect? (c : Char) : List Char → Option (List Char)
  | d :: cs => if c = d then some cs else none
  | [] => none

def daysIn (year month : Nat) : Nat :=
  if month = 2 then
    if year % 4 = 0 && (year % 100 != 0 || year % 400 = 0) then 29 else 28
  else if month = 4 || month = 6 || month = 9 || month = 11 then 30
  else 31

def afterDate? (cs : List Char) : Option (List Char) := do
  let (year, cs) ← fixed? 4 cs
  let (month, cs) ← fixed? 2 (← expect? '-' cs)
  let (day, cs) ← fixed? 2 (← expect? '-' cs)
  if 1 ≤ month && month ≤ 12 && 1 ≤ day && day ≤ daysIn year month then some cs else none

/-- What is behind a time; second 60 is a leap second. -/
def afterTime? (cs : List Char) : Option (List Char) := do
  let (hour, cs) ← fixed? 2 cs
  let (minute, cs) ← fixed? 2 (← expect? ':' cs)
  let (second, cs) ← fixed? 2 (← expect? ':' cs)
  if 23 < hour || 59 < minute || 60 < second then none
  else
    match cs with
    | '.' :: cs =>
      if (cs.takeWhile Char.isDigit).isEmpty then none else some (cs.dropWhile Char.isDigit)
    | cs => some cs

def isOffset : List Char → Bool
  | ['Z'] | ['z'] => true
  | sign :: cs =>
    (sign == '+' || sign == '-') &&
      match fixed? 2 cs with
      | some (hour, ':' :: cs) =>
        match fixed? 2 cs with
        | some (minute, []) => hour ≤ 23 && minute ≤ 59
        | _ => false
      | _ => false
  | [] => false

def isTime (zoned : Bool) (cs : List Char) : Bool :=
  match afterTime? cs with
  | some [] => true
  | some rest => zoned && isOffset rest
  | none => false

def isMoment (word : List Char) : Bool :=
  isTime false word ||
    match afterDate? word with
    | some [] => true
    | some (c :: rest) => (c == 'T' || c == 't' || c == ' ') && isTime true rest
    | none => false

/-! ## Words -/

def isWordChar (c : Char) : Bool :=
  c.isAlphanum || c == '_' || c == '-' || c == '+' || c == '.' || c == ':'

/-- The bare word at the front; a blank between a date and a time belongs to it. -/
def splitWord (cs : List Char) : List Char × List Char :=
  let word := cs.takeWhile isWordChar
  let rest := cs.dropWhile isWordChar
  match rest with
  | ' ' :: d :: _ =>
    if afterDate? word = some [] && d.isDigit then
      (word ++ ' ' :: (rest.drop 1).takeWhile isWordChar, (rest.drop 1).dropWhile isWordChar)
    else (word, rest)
  | _ => (word, rest)

def wordValue? (word : List Char) : Option Scalar :=
  if word = "true".toList then some (.boolean true)
  else if word = "false".toList then some (.boolean false)
  else if isMoment word then some .dateTime
  else
    match integer? word, float? word with
    | some i, _ => some (.integer i)
    | none, some x => some (.float x)
    | none, none => none

end FleetWatch.Toml
