import FleetWatch.Text.CodeRange
import FleetWatch.Text.InvisibleData

/-!
# Quoted texts

A text between double quotes in which every character can be seen: quotes, backslashes, line ends
and tabs have short escapes, and other invisible characters are written by their number.
-/

namespace FleetWatch

def invisibleRanges : List CodeRange := CodeRange.parseAll invisibleText

def isInvisible (c : Char) : Bool := (CodeRange.classIn invisibleRanges c).isSome

def quotedChar (c : Char) : List Char :=
  if c = '"' then ['\\', '"']
  else if c = '\\' then ['\\', '\\']
  else if c = '\n' then ['\\', 'n']
  else if c = '\r' then ['\\', 'r']
  else if c = '\t' then ['\\', 't']
  else if c = '\x00' then ['\\', '0']
  else if 0x20 ≤ c.toNat && c.toNat ≤ 0x7E then [c]
  else if isInvisible c then '\\' :: 'u' :: '\x7b' :: Nat.toDigits 16 c.toNat ++ ['\x7d']
  else [c]

def quoted (s : String) : String :=
  String.ofList ('"' :: (s.toList.flatMap quotedChar ++ ['"']))

end FleetWatch
