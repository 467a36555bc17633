import FleetWatch.Text.Utf8

/-!
# Why a text is not JSON

A fault has a cause and a place.  The place is kept as the bytes not yet read when the fault was
seen, so that no reader has to count; `JsonError.locate` turns it into a line and a column.
-/

namespace FleetWatch

inductive JsonFault where
  | endInValue
  | endInObject
  | endInList
  | endInString
  | expectedValue
  | expectedIdentifier
  | invalidNumber
  | numberOutOfRange
  | expectedColon
  | expectedCommaOrBrace
  | expectedCommaOrBracket
  | keyMustBeString
  | trailingComma
  | trailingCharacters
  | recursionLimit
  | controlCharacter
  | invalidEscape
  | endOfHexEscape
  | loneSurrogate
  | invalidCodePoint
deriving DecidableEq, Repr

def JsonFault.message : JsonFault → String
  | endInValue => "EOF while parsing a value"
  | endInObject => "EOF while parsing an object"
  | endInList => "EOF while parsing a list"
  | endInString => "EOF while parsing a string"
  | expectedValue => "expected value"
  | expectedIdentifier => "expected ident"
  | invalidNumber => "invalid number"
  | numberOutOfRange => "number out of range"
  | expectedColon => "expected `:`"
  | expectedCommaOrBrace => "expected `,` or `\x7d`"
  | expectedCommaOrBracket => "expected `,` or `]`"
  | keyMustBeString => "key must be a string"
  | trailingComma => "trailing comma"
  | trailingCharacters => "trailing characters"
  | recursionLimit => "recursion limit exceeded"
  | controlCharacter =>
    "control character (\\u0000-\\u001F) found while parsing a string"
  | invalidEscape => "invalid escape"
  | endOfHexEscape => "unexpected end of hex escape"
  | loneSurrogate => "lone leading surrogate in hex escape"
  | invalidCodePoint => "invalid unicode code point"

structure JsonFailure where
  fault : JsonFault
  unread : Bytes
deriving DecidableEq, Repr

/-- A fault at a line and a column, both of the last byte read. -/
structure JsonError where
  fault : JsonFault
  line : Nat
  column : Nat
deriving DecidableEq, Repr

namespace JsonError

def locate (text : Bytes) (failure : JsonFailure) : JsonError :=
  let consumed := text.take (text.length - failure.unread.length)
  let newline := '\n'.toUInt8
  ⟨failure.fault, 1 + consumed.count newline,
    (consumed.reverse.takeWhile (· != newline)).length⟩

def message (e : JsonError) : String :=
  e.fault.message ++ " at line " ++ toString e.line ++ " column " ++ toString e.column

end JsonError
end FleetWatch
