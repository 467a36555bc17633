import FleetWatch.Json.Error

/-!
# JSON strings

Characters stand for themselves in UTF-8 or are escaped.  A byte sequence that is not UTF-8 is
reported when the run of plain characters around it ends, so a control character or the end of
the text further on in the run is reported first.
-/

namespace FleetWatch.JsonText

def hexValue (b : UInt8) : Option Nat :=
  if '0'.toUInt8 ≤ b && b ≤ '9'.toUInt8 then some (b.toNat - 48)
  else if 'a'.toUInt8 ≤ b && b ≤ 'f'.toUInt8 then some (b.toNat - 87)
  else if 'A'.toUInt8 ≤ b && b ≤ 'F'.toUInt8 then some (b.toNat - 55)
  else none

def readHex : Bytes → Except JsonFailure (Nat × Bytes)
  | a :: b :: c :: d :: rest =>
    match hexValue a, hexValue b, hexValue c, hexValue d with
    | some a, some b, some c, some d => .ok (((a * 16 + b) * 16 + c) * 16 + d, rest)
    | _, _, _, _ => .error ⟨.invalidEscape, rest⟩
  | _ => .error ⟨.endInString, []⟩

def expectPairByte (expected : UInt8) : Bytes → Except JsonFailure Bytes
  | [] => .error ⟨.endInString, []⟩
  | b :: rest => if b = expected then .ok rest else .error ⟨.endOfHexEscape, rest⟩

def readUnicode (bs : Bytes) : Except JsonFailure (Char × Bytes) := do
  let (high, rest) ← readHex bs
  if 0xDC00 ≤ high && high ≤ 0xDFFF then .error ⟨.loneSurrogate, rest⟩
  else if high < 0xD800 || 0xDBFF < high then .ok (Char.ofNat high, rest)
  else
    let rest ← expectPairByte '\\'.toUInt8 rest
    let rest ← expectPairByte 'u'.toUInt8 rest
    let (low, rest) ← readHex rest
    if low < 0xDC00 || 0xDFFF < low then .error ⟨.loneSurrogate, rest⟩
    else .ok (Char.ofNat (0x10000 + (high - 0xD800) * 0x400 + (low - 0xDC00)), rest)

def simpleEscape (b : UInt8) : Option Char :=
  if b = '"'.toUInt8 then some '"'
  else if b = '\\'.toUInt8 then some '\\'
  else if b = '/'.toUInt8 then some '/'
  else if b = 'b'.toUInt8 then some '\x08'
  else if b = 'f'.toUInt8 then some '\x0c'
  else if b = 'n'.toUInt8 then some '\n'
  else if b = 'r'.toUInt8 then some '\r'
  else if b = 't'.toUInt8 then some '\t'
  else none

def readEscape : Bytes → Except JsonFailure (Char × Bytes)
  | [] => .error ⟨.endInString, []⟩
  | b :: rest =>
    if b = 'u'.toUInt8 then readUnicode rest
    else
      match simpleEscape b with
      | some c => .ok (c, rest)
      | none => .error ⟨.invalidEscape, rest⟩

/-- Reads the characters of a string and its closing quote, each step using one unit of `fuel`.

`broken` holds what follows the first byte that is not UTF-8 in the current run. -/
def readChars : Nat → Option Bytes → Bytes → Except JsonFailure (List Char × Bytes)
  | 0, _, _ => .error ⟨.endInString, []⟩
  | _, _, [] => .error ⟨.endInString, []⟩
  | fuel + 1, broken, b :: rest =>
    if b = '"'.toUInt8 || b = '\\'.toUInt8 then
      match broken with
      | some after => .error ⟨.invalidCodePoint, after⟩
      | none =>
        if b = '"'.toUInt8 then .ok ([], rest)
        else do
          let (c, rest) ← readEscape rest
          let (cs, rest) ← readChars fuel none rest
          .ok (c :: cs, rest)
    else if b < ' '.toUInt8 then .error ⟨.controlCharacter, rest⟩
    else
      match Utf8.decodeChar (b :: rest) with
      | some (c, rest) => do
        let (cs, rest) ← readChars fuel broken rest
        .ok (c :: cs, rest)
      | none => readChars fuel (broken.or (some rest)) rest

def read (bs : Bytes) : Except JsonFailure (String × Bytes) := do
  let (cs, rest) ← readChars (bs.length + 1) none bs
  .ok (String.ofList cs, rest)

end FleetWatch.JsonText
