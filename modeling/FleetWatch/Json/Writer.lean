import FleetWatch.Json.Value
import FleetWatch.Number.Shortest

/-!
# Writing JSON

Compact texts: no blank between tokens, members in order, non-ASCII characters as they are.
-/

namespace FleetWatch.Json

def hexDigit (n : Nat) : Char := Nat.digitChar (n % 16)

def escapeChar (c : Char) : List Char :=
  if c = '"' then ['\\', '"']
  else if c = '\\' then ['\\', '\\']
  else if c = '\x08' then ['\\', 'b']
  else if c = '\x0c' then ['\\', 'f']
  else if c = '\n' then ['\\', 'n']
  else if c = '\r' then ['\\', 'r']
  else if c = '\t' then ['\\', 't']
  else if c.toNat < 0x20 then ['\\', 'u', '0', '0', hexDigit (c.toNat / 16), hexDigit c.toNat]
  else [c]

def writeString (s : String) : List Char := '"' :: (s.toList.flatMap escapeChar ++ ['"'])

/-- Where the point stands in the shortest digits of a double.

Positional from `10 ^ -5` up to below `10 ^ 16`, always with a digit behind the point; otherwise
one digit before the point and a signed exponent. -/
def placePoint (digits : List Char) (exponent : Int) : List Char :=
  let leading : Int := exponent + digits.length - 1
  if leading < -5 || 16 ≤ leading then
    let tail := if digits.length ≤ 1 then [] else '.' :: digits.drop 1
    digits.take 1 ++ tail ++ 'e' :: (if leading < 0 then '-' else '+') ::
      (toString leading.natAbs).toList
  else if 0 ≤ exponent then digits ++ List.replicate exponent.toNat '0' ++ ['.', '0']
  else if leading < 0 then
    '0' :: '.' :: List.replicate (-leading - 1).toNat '0' ++ digits
  else digits.take (leading.toNat + 1) ++ '.' :: digits.drop (leading.toNat + 1)

/-- The shortest digits that read back; an infinity or a NaN has no number and is `null`. -/
def writeDouble (x : Binary64) : List Char :=
  if x.isFinite then
    let d := shortestDecimal x
    let text :=
      if d.digits = 0 then ['0', '.', '0'] else placePoint (Nat.toDigits 10 d.digits) d.exponent
    if x.isNegative then '-' :: text else text
  else ['n', 'u', 'l', 'l']

def writeNumber : JsonNumber → List Char
  | .integer i => (toString i).toList
  | .float x => writeDouble x

mutual

def writeChars : Json → List Char
  | null => ['n', 'u', 'l', 'l']
  | bool true => ['t', 'r', 'u', 'e']
  | bool false => ['f', 'a', 'l', 's', 'e']
  | number n => writeNumber n
  | string s => writeString s
  | array [] => ['[', ']']
  | array (x :: xs) => '[' :: (writeChars x ++ writeElements xs)
  | object [] => ['\x7b', '\x7d']
  | object ((k, v) :: ms) => '\x7b' :: (writeString k ++ ':' :: (writeChars v ++ writeMembers ms))

def writeElements : List Json → List Char
  | [] => [']']
  | x :: xs => ',' :: (writeChars x ++ writeElements xs)

def writeMembers : List (String × Json) → List Char
  | [] => ['\x7d']
  | (k, v) :: ms => ',' :: (writeString k ++ ':' :: (writeChars v ++ writeMembers ms))

end

def write (v : Json) : String := String.ofList (writeChars v)

end FleetWatch.Json
