import FleetWatch.Json.Number
import FleetWatch.Json.Text

/-!
# Reading JSON

The strict grammar over bytes, with blanks between tokens and at most `maxDepth` open brackets.
A reader takes the bytes and gives a value and the bytes behind it, or a failure.  The functions
for arrays and objects take the reader of their members as an argument, which is the value reader
one level down.
-/

namespace FleetWatch.Json

def isBlankByte (b : UInt8) : Bool :=
  b = ' '.toUInt8 || b = '\t'.toUInt8 || b = '\n'.toUInt8 || b = '\r'.toUInt8

def skipBlanks (bs : Bytes) : Bytes := bs.dropWhile isBlankByte

abbrev Reader (α : Type) := Bytes → Except JsonFailure (α × Bytes)

def readWord (value : Json) : Bytes → Reader Json
  | [], bs => .ok (value, bs)
  | _ :: _, [] => .error ⟨.endInValue, []⟩
  | w :: ws, b :: bs => if b = w then readWord value ws bs else .error ⟨.expectedIdentifier, bs⟩

def readElements (element : Reader Json) : Nat → Reader (List Json)
  | 0, _ => .error ⟨.endInList, []⟩
  | fuel + 1, bs =>
    match skipBlanks bs with
    | [] => .error ⟨.endInList, []⟩
    | b :: rest =>
      if b = ']'.toUInt8 then .ok ([], rest)
      else if b = ','.toUInt8 then
        match skipBlanks rest with
        | [] => .error ⟨.endInValue, []⟩
        | b :: rest =>
          if b = ']'.toUInt8 then .error ⟨.trailingComma, rest⟩
          else do
            let (x, rest) ← element (b :: rest)
            let (xs, rest) ← readElements element fuel rest
            .ok (x :: xs, rest)
      else .error ⟨.expectedCommaOrBracket, rest⟩

def readArray (element : Reader Json) : Reader (List Json) := fun bs =>
  match skipBlanks bs with
  | [] => .error ⟨.endInList, []⟩
  | b :: rest =>
    if b = ']'.toUInt8 then .ok ([], rest)
    else do
      let (x, rest) ← element (b :: rest)
      let (xs, rest) ← readElements element (rest.length + 1) rest
      .ok (x :: xs, rest)

def readMember (element : Reader Json) : Reader (String × Json) := fun bs => do
  let (key, rest) ← JsonText.read bs
  match skipBlanks rest with
  | [] => .error ⟨.endInObject, []⟩
  | b :: rest =>
    if b = ':'.toUInt8 then do
      let (value, rest) ← element rest
      .ok ((key, value), rest)
    else .error ⟨.expectedColon, rest⟩

def readMembers (element : Reader Json) : Nat → Reader Members
  | 0, _ => .error ⟨.endInObject, []⟩
  | fuel + 1, bs =>
    match skipBlanks bs with
    | [] => .error ⟨.endInObject, []⟩
    | b :: rest =>
      if b = '\x7d'.toUInt8 then .ok ([], rest)
      else if b = ','.toUInt8 then
        match skipBlanks rest with
        | [] => .error ⟨.endInValue, []⟩
        | b :: rest =>
          if b = '"'.toUInt8 then do
            let (m, rest) ← readMember element rest
            let (ms, rest) ← readMembers element fuel rest
            .ok (m :: ms, rest)
          else if b = '\x7d'.toUInt8 then .error ⟨.trailingComma, rest⟩
          else .error ⟨.keyMustBeString, rest⟩
      else .error ⟨.expectedCommaOrBrace, rest⟩

/-- Reads an object behind its brace: its members as written, keys possibly repeated. -/
def readObject (element : Reader Json) : Reader Members := fun bs =>
  match skipBlanks bs with
  | [] => .error ⟨.endInObject, []⟩
  | b :: rest =>
    if b = '\x7d'.toUInt8 then .ok ([], rest)
    else if b = '"'.toUInt8 then do
      let (m, rest) ← readMember element rest
      let (ms, rest) ← readMembers element (rest.length + 1) rest
      .ok (m :: ms, rest)
    else .error ⟨.keyMustBeString, rest⟩

/-- The members of an object as written, each key with the last value it was given. -/
def Members.ofWritten (written : Members) : Members :=
  written.foldl (fun ms m => put m.1 m.2 ms) []

/-- Reads a value with at most `depth` brackets open inside it. -/
def readValue : Nat → Reader Json
  | depth, bs =>
    match skipBlanks bs with
    | [] => .error ⟨.endInValue, []⟩
    | b :: rest =>
      if b = 'n'.toUInt8 then readWord null ("ull".toList.map Char.toUInt8) rest
      else if b = 't'.toUInt8 then readWord (bool true) ("rue".toList.map Char.toUInt8) rest
      else if b = 'f'.toUInt8 then readWord (bool false) ("alse".toList.map Char.toUInt8) rest
      else if b = '-'.toUInt8 then do
        let (n, rest) ← JsonNumber.readUnsigned true rest
        .ok (number n, rest)
      else if JsonNumber.isDigit b then do
        let (n, rest) ← JsonNumber.readUnsigned false (b :: rest)
        .ok (number n, rest)
      else if b = '"'.toUInt8 then do
        let (s, rest) ← JsonText.read rest
        .ok (string s, rest)
      else if b = '['.toUInt8 then
        match depth with
        | 0 => .error ⟨.recursionLimit, rest⟩
        | depth + 1 => do
          let (xs, rest) ← readArray (readValue depth) rest
          .ok (array xs, rest)
      else if b = '\x7b'.toUInt8 then
        match depth with
        | 0 => .error ⟨.recursionLimit, rest⟩
        | depth + 1 => do
          let (ms, rest) ← readObject (readValue depth) rest
          .ok (object (Members.ofWritten ms), rest)
      else .error ⟨.expectedValue, rest⟩

def maxDepth : Nat := 127

def readText (bs : Bytes) : Except JsonFailure Json := do
  let (value, rest) ← readValue maxDepth bs
  match skipBlanks rest with
  | [] => .ok value
  | _ :: rest => .error ⟨.trailingCharacters, rest⟩

def read (bs : Bytes) : Except JsonError Json := (readText bs).mapError (JsonError.locate bs)

end FleetWatch.Json
