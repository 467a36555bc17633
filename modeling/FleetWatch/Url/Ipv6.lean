import FleetWatch.Url.Error
import FleetWatch.Text.CodeRange

/-!
# IPv6 hosts

Eight pieces of up to four hexadecimal digits between colons.  Two colons once stand for one or
more zero pieces, and the last two pieces may be written as four decimal bytes.
-/

namespace FleetWatch.Ipv6

inductive Item where
  | gap
  | piece (value : Nat)
deriving DecidableEq, Repr

def isHexDigit (c : Char) : Bool :=
  c.isDigit || ('a' ≤ c && c ≤ 'f') || ('A' ≤ c && c ≤ 'F')

def readByte (cs : List Char) : Option (Nat × List Char) :=
  let digits := cs.takeWhile Char.isDigit
  let value := Nat.ofDigitChars 10 digits 0
  if digits.isEmpty || (1 < digits.length && digits.head? == some '0') || 255 < value then none
  else some (value, cs.dropWhile Char.isDigit)

def expectDot : List Char → Option (List Char)
  | '.' :: cs => some cs
  | _ => none

def readBytes (cs : List Char) : Option (List Item) := do
  let (a, cs) ← readByte cs
  let (b, cs) ← readByte (← expectDot cs)
  let (c, cs) ← readByte (← expectDot cs)
  let (d, cs) ← readByte (← expectDot cs)
  if cs.isEmpty then some [.piece (a * 256 + b), .piece (c * 256 + d)] else none

/-- Reads pieces into so many free places; a gap takes one, and there is at most one. -/
def readItems : (free : Nat) → (gap : Bool) → List Char → Option (List Item)
  | _, _, [] => some []
  | 0, _, _ :: _ => none
  | free + 1, gap, c :: cs =>
    if c = ':' then
      if gap then none else (readItems free true cs).map (.gap :: ·)
    else
      let digits := ((c :: cs).take 4).takeWhile isHexDigit
      match (c :: cs).drop digits.length with
      | [] => (readItems free gap []).map (.piece (hexNat (digits.map Char.toLower)) :: ·)
      | '.' :: _ => if digits.isEmpty || free = 0 then none else readBytes (c :: cs)
      | [':'] => none
      | ':' :: rest =>
        (readItems free gap rest).map (.piece (hexNat (digits.map Char.toLower)) :: ·)
      | _ => none

def fill (items : List Item) : Option (List Nat) :=
  let pieces := items.filterMap fun i => match i with
    | .piece n => some n
    | .gap => none
  if items.contains .gap then
    let before := (items.takeWhile (· != .gap)).length
    some (pieces.take before ++ List.replicate (8 - pieces.length) 0 ++ pieces.drop before)
  else if pieces.length = 8 then some pieces
  else none

def parse (cs : List Char) : Except UrlError (List Nat) :=
  let items : Option (List Item) := match cs with
    | [] | [_] => none
    | ':' :: ':' :: rest => (readItems 7 true rest).map (Item.gap :: ·)
    | ':' :: _ => none
    | cs => readItems 8 false cs
  match items.bind fill with
  | some pieces => .ok pieces
  | none => .error .invalidIpv6

end FleetWatch.Ipv6
