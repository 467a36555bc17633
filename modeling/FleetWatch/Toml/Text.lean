/-!
# Texts in TOML

Blanks, comments and line ends, and the four kinds of strings.  A reader takes the characters and
gives what it read and the characters behind it, or nothing.
-/

namespace FleetWatch.Toml

abbrev Reader (α : Type) := List Char → Option (α × List Char)

def isBlank (c : Char) : Bool := c == ' ' || c == '\t'

def skipBlanks (cs : List Char) : List Char := cs.dropWhile isBlank

def isVisible (c : Char) : Bool :=
  c == '\t' || (0x20 ≤ c.toNat && c.toNat ≤ 0x7E) || 0x80 ≤ c.toNat

def afterLineEnd? : List Char → Option (List Char)
  | '\n' :: cs => some cs
  | '\r' :: '\n' :: cs => some cs
  | _ => none

def skipComment (cs : List Char) : List Char :=
  match skipBlanks cs with
  | '#' :: cs => cs.dropWhile isVisible
  | cs => cs

def endLine (cs : List Char) : Option (List Char) :=
  match skipComment cs with
  | [] => some []
  | cs => afterLineEnd? cs

def skipLines : Nat → List Char → List Char
  | 0, cs => cs
  | fuel + 1, cs =>
    match afterLineEnd? (skipComment cs) with
    | some rest => skipLines fuel rest
    | none => skipComment cs

/-! ## Escapes -/

def hexValue? (c : Char) : Option Nat :=
  if c.isDigit then some (c.toNat - '0'.toNat)
  else if 'a' ≤ c && c ≤ 'f' then some (c.toNat - 'a'.toNat + 10)
  else if 'A' ≤ c && c ≤ 'F' then some (c.toNat - 'A'.toNat + 10)
  else none

def readHex : (count : Nat) → (value : Nat) → Reader Nat
  | 0, value, cs => some (value, cs)
  | _ + 1, _, [] => none
  | count + 1, value, c :: cs =>
    match hexValue? c with
    | some d => readHex count (value * 16 + d) cs
    | none => none

def readCode (count : Nat) : Reader Char := fun cs =>
  match readHex count 0 cs with
  | some (n, rest) => if n.isValidChar then some (Char.ofNat n, rest) else none
  | none => none

def readEscape : Reader Char
  | [] => none
  | c :: cs =>
    match c with
    | 'b' => some ('\x08', cs)
    | 't' => some ('\t', cs)
    | 'n' => some ('\n', cs)
    | 'f' => some ('\x0c', cs)
    | 'r' => some ('\r', cs)
    | '"' => some ('"', cs)
    | '\\' => some ('\\', cs)
    | 'u' => readCode 4 cs
    | 'U' => readCode 8 cs
    | _ => none

/-! ## Strings -/

def readBasic : Nat → Reader (List Char)
  | 0, _ => none
  | _, [] => none
  | fuel + 1, c :: cs =>
    if c = '"' then some ([], cs)
    else
      match if c = '\\' then readEscape cs else if isVisible c then some (c, cs) else none with
      | none => none
      | some (d, rest) => (readBasic fuel rest).map fun (ds, rest) => (d :: ds, rest)

def readLiteral : Reader (List Char)
  | [] => none
  | c :: cs =>
    if c = '\'' then some ([], cs)
    else if isVisible c then (readLiteral cs).map fun (ds, rest) => (c :: ds, rest)
    else none

/-- Up to two quotes may stand before the three that close a text. -/
def closeText (quote : Char) (cs : List Char) : List Char × List Char :=
  let count := (cs.takeWhile (· == quote)).length
  (List.replicate (min (count - 3) 2) quote, cs.drop (min count 5))

def startsText (quote : Char) : List Char → Bool
  | a :: b :: c :: _ => a == quote && b == quote && c == quote
  | _ => false

/-- What is behind a backslash that joins lines: the blanks and line ends that follow it. -/
def skipFold : Nat → List Char → List Char
  | 0, cs => cs
  | fuel + 1, cs =>
    match afterLineEnd? (skipBlanks cs) with
    | some rest => skipFold fuel rest
    | none => skipBlanks cs

/-- Reads up to the closing quotes of a text over lines; `escapes` tells the two kinds apart. -/
def readLongText (escapes : Bool) (quote : Char) : Nat → Reader (List Char)
  | 0, _ => none
  | _, [] => none
  | fuel + 1, c :: cs =>
    if startsText quote (c :: cs) then some (closeText quote (c :: cs))
    else if escapes && c == '\\' && (afterLineEnd? (skipBlanks cs)).isSome then
      readLongText escapes quote fuel (skipFold cs.length cs)
    else
      let next :=
        if escapes && c == '\\' then readEscape cs
        else
          match afterLineEnd? (c :: cs) with
          | some rest => some ('\n', rest)
          | none => if isVisible c then some (c, cs) else none
      match next with
      | none => none
      | some (d, rest) =>
        (readLongText escapes quote fuel rest).map fun (ds, rest) => (d :: ds, rest)

/-- A line end right behind the opening quotes does not belong to the text. -/
def dropFirstLineEnd (cs : List Char) : List Char := (afterLineEnd? cs).getD cs

def readShort (quote : Char) (cs : List Char) : Option (List Char × List Char) :=
  if quote = '"' then readBasic (cs.length + 1) cs else readLiteral cs

def readString (quote : Char) : Reader String := fun cs =>
  let read :=
    if startsText quote cs then
      readLongText (quote == '"') quote cs.length (dropFirstLineEnd (cs.drop 3))
    else readShort quote (cs.drop 1)
  read.map fun (ds, rest) => (String.ofList ds, rest)

end FleetWatch.Toml
