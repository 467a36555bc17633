import FleetWatch.Text.Utf8

/-!
# Percent encoding

Bytes written as `%` and two hexadecimal digits.
-/

namespace FleetWatch.Percent

def hexValue (b : UInt8) : Option Nat :=
  let c := Char.ofNat b.toNat
  if c.isDigit then some (b.toNat - 48)
  else if 'a' ≤ c && c ≤ 'f' then some (b.toNat - 87)
  else if 'A' ≤ c && c ≤ 'F' then some (b.toNat - 55)
  else none

/-- Decodes every escape; a `%` without two digits behind it stays. -/
def decode : Bytes → Bytes
  | a :: b :: c :: rest =>
    match if a = '%'.toUInt8 then hexValue b else none, hexValue c with
    | some high, some low => UInt8.ofNat (high * 16 + low) :: decode rest
    | _, _ => a :: decode (b :: c :: rest)
  | bs => bs

def hexDigit (n : Nat) : Char := (Nat.digitChar n).toUpper

def escapeByte (b : UInt8) : List Char :=
  ['%', hexDigit (b.toNat / 16), hexDigit (b.toNat % 16)]

def encode (p : Char → Bool) (cs : List Char) : List Char :=
  cs.flatMap fun c =>
    if p c || 0x7E < c.toNat || c.toNat < 0x20 then (String.utf8EncodeChar c).flatMap escapeByte
    else [c]

end FleetWatch.Percent
