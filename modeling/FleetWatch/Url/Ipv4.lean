import FleetWatch.Url.Error
import FleetWatch.Text.CodeRange

/-!
# IPv4 hosts

Up to four numbers between dots, decimal, octal after a zero or hexadecimal after `0x`; the last
number fills all the bytes that the others leave.  A host whose last part is a number must be such
an address.
-/

namespace FleetWatch.Ipv4

def radix : List Char → List Char × Nat
  | '0' :: 'x' :: ds => (ds, 16)
  | '0' :: 'X' :: ds => (ds, 16)
  | '0' :: d :: ds => (d :: ds, 8)
  | ds => (ds, 10)

def isDigitOf (base : Nat) (c : Char) : Bool :=
  if base = 8 then '0' ≤ c && c ≤ '7'
  else c.isDigit || (base == 16 && (('a' ≤ c && c ≤ 'f') || ('A' ≤ c && c ≤ 'F')))

/-- The number that a part of a host writes; a base alone is zero. -/
def number? (part : List Char) : Option Nat :=
  if part.isEmpty then none
  else
    let (digits, base) := radix part
    if digits.all (isDigitOf base) then
      some (digits.foldl (fun n c => n * base + hexDigitValue c.toLower) 0)
    else none

/-- The parts of a host; a dot at its end closes no part. -/
def parts (host : List Char) : List (List Char) :=
  let parts := splitAtChar '.' host
  if parts.getLast? == some [] && 1 < parts.length then parts.dropLast else parts

def endsInNumber (host : List Char) : Bool :=
  match (parts host).getLast? with
  | some last => (!last.isEmpty && last.all Char.isDigit) || (number? last).isSome
  | none => false

/-- The value of the numbers, the last one filling `width` bytes; none if one is too great. -/
def valueOf : (width : Nat) → List Nat → Option Nat
  | _, [] => none
  | width, [n] => if n < Nat.pow 256 width then some n else none
  | width, n :: ns =>
    if 255 < n then none
    else (valueOf (width - 1) ns).map (n * Nat.pow 256 (width - 1) + ·)

def parse (host : List Char) : Except UrlError Nat :=
  let parts := parts host
  if 4 < parts.length then .error .invalidIpv4
  else
    match parts.mapM number? >>= valueOf 4 with
    | some address => .ok address
    | none => .error .invalidIpv4

end FleetWatch.Ipv4
