/-!
# Punycode

A label in ASCII alone: its ASCII characters, a hyphen if there are any, and the places and code
points of the others as numbers in a mixed base with an adaptive threshold.
-/

namespace FleetWatch.Punycode

def base : Nat := 36
def minThreshold : Nat := 1
def maxThreshold : Nat := 26
def skew : Nat := 38
def damp : Nat := 700
def initialBias : Nat := 72
def firstCode : Nat := 0x80

/-- Codes and differences stay below this bound, which holds every code point and place. -/
def limit : Nat := UInt32.size

def threshold (bias k : Nat) : Nat := max minThreshold (min maxThreshold (k - bias))

def reduce : Nat → Nat → Nat → Nat × Nat
  | 0, delta, k => (delta, k)
  | fuel + 1, delta, k =>
    if (base - minThreshold) * maxThreshold / 2 < delta then
      reduce fuel (delta / (base - minThreshold)) (k + base)
    else (delta, k)

def adapt (delta points : Nat) (first : Bool) : Nat :=
  let delta := if first then delta / damp else delta / 2
  let (delta, k) := reduce delta (delta + delta / points) 0
  k + (base - minThreshold + 1) * delta / (delta + skew)

def digitValue (c : Char) : Option Nat :=
  if 'a' ≤ c && c ≤ 'z' then some (c.toNat - 'a'.toNat)
  else if 'A' ≤ c && c ≤ 'Z' then some (c.toNat - 'A'.toNat)
  else if c.isDigit then some (c.toNat - '0'.toNat + 26)
  else none

def digitChar (n : Nat) : Char :=
  if n < 26 then Char.ofNat (n + 'a'.toNat) else Char.ofNat (n - 26 + '0'.toNat)

def readNumber (bias : Nat) : List Char → (i weight k : Nat) → Option (Nat × List Char)
  | [], _, _, _ => none
  | c :: cs, i, weight, k =>
    match digitValue c with
    | none => none
    | some digit =>
      let i := i + digit * weight
      let t := threshold bias k
      if limit ≤ i then none
      else if digit < t then some (i, cs)
      else readNumber bias cs i (weight * (base - t)) (k + base)

/-- Inserts the code points that the digits describe; each takes at least one digit. -/
def decodeInsertions :
    Nat → List Char → (code i bias : Nat) → List Char → Option (List Char)
  | _, [], _, _, _, output => some output
  | 0, _ :: _, _, _, _, _ => none
  | fuel + 1, cs, code, i, bias, output =>
    match readNumber bias cs i 1 base with
    | none => none
    | some (j, rest) =>
      let points := output.length + 1
      let code := code + j / points
      let place := j % points
      if code.isValidChar then
        decodeInsertions fuel rest code (place + 1) (adapt (j - i) points (i == 0))
          (output.take place ++ Char.ofNat code :: output.drop place)
      else none

/-- The text that an ASCII form stands for: what is before the last hyphen, and insertions. -/
def decode (cs : List Char) : Option (List Char) :=
  let tail := (cs.reverse.takeWhile (· != '-')).reverse
  let literal := cs.take (cs.length - tail.length - 1)
  let digits := if literal.isEmpty then cs else tail
  decodeInsertions digits.length digits firstCode 0 initialBias literal

def writeNumber (bias : Nat) : Nat → (q k : Nat) → List Char
  | 0, _, _ => []
  | fuel + 1, q, k =>
    let t := threshold bias k
    if q < t then [digitChar q]
    else
      digitChar (t + (q - t) % (base - t)) ::
        writeNumber bias fuel ((q - t) / (base - t)) (k + base)

structure Encoder where
  output : List Char
  delta : Nat
  bias : Nat
  handled : Nat

def Encoder.step (literals code : Nat) (s : Encoder) (c : Char) : Encoder :=
  if c.toNat < code then { s with delta := s.delta + 1 }
  else if c.toNat = code then
    { output := s.output ++ writeNumber s.bias (s.delta + 1) s.delta base
      delta := 0
      bias := adapt s.delta (s.handled + 1) (s.handled == literals)
      handled := s.handled + 1 }
  else s

def encodeRounds (text : List Char) (literals : Nat) : Nat → (code : Nat) → Encoder → List Char
  | 0, _, s => s.output
  | fuel + 1, code, s =>
    match (text.map Char.toNat).filter (code ≤ ·) with
    | [] => s.output
    | n :: ns =>
      let next := ns.foldl min n
      let s := { s with delta := s.delta + (next - code) * (s.handled + 1) }
      let s := text.foldl (Encoder.step literals next) s
      encodeRounds text literals fuel (next + 1) { s with delta := s.delta + 1 }

def encode (text : List Char) : List Char :=
  let literal := text.filter (·.toNat < firstCode)
  let start := if literal.isEmpty then [] else literal ++ ['-']
  encodeRounds text literal.length text.length firstCode ⟨start, 0, initialBias, literal.length⟩

end FleetWatch.Punycode
