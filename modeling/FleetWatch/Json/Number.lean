import FleetWatch.Json.Error
import FleetWatch.Json.Value

/-!
# JSON numbers

A number without fraction and exponent that fits 64 bits, signed or unsigned, stays whole.  Any
other is read with a significand of 64 bits: further digits only move the exponent, and the
rounded significand is multiplied or divided by rounded powers of ten.
-/

namespace FleetWatch.JsonNumber

structure Scientific where
  significand : Nat
  exponent : Int

def maxSignificand : Nat := UInt64.size - 1

def isDigit (b : UInt8) : Bool := '0'.toUInt8 ≤ b && b ≤ '9'.toUInt8

def digitValue (b : UInt8) : Nat := b.toNat - 48

/-- Appends the digits before the point; from the first that does not fit, each multiplies the
value by ten and is forgotten. -/
def Scientific.addInteger : Scientific → Bytes → Scientific
  | s, [] => s
  | s, d :: ds =>
    let next := s.significand * 10 + digitValue d
    if next ≤ maxSignificand then addInteger ⟨next, s.exponent⟩ ds
    else ⟨s.significand, s.exponent + (ds.length + 1 : Nat)⟩

/-- Appends the digits after the point, up to the first that does not fit. -/
def Scientific.addFraction : Scientific → Bytes → Scientific
  | s, [] => s
  | s, d :: ds =>
    let next := s.significand * 10 + digitValue d
    if next ≤ maxSignificand then addFraction ⟨next, s.exponent - 1⟩ ds else s

def powerOfTen (k : Nat) : Binary64 := Binary64.ofNat (Nat.pow 10 k)

/-- The double of a positive decimal; none if it is too great.

The powers of ten end at `10 ^ 308`, so a smaller exponent is applied in two divisions, and what
is below both is zero. -/
def Scientific.toDouble? (s : Scientific) : Option Binary64 :=
  let x := Binary64.ofNat s.significand
  if s.significand = 0 then some x
  else if 308 < s.exponent then none
  else if 0 ≤ s.exponent then
    let y := x.mul (powerOfTen s.exponent.toNat)
    if y.isFinite then some y else none
  else if -308 ≤ s.exponent then some (x.div (powerOfTen (-s.exponent).toNat))
  else if -616 ≤ s.exponent then
    some ((x.div (powerOfTen 308)).div (powerOfTen (-s.exponent - 308).toNat))
  else some Binary64.zero

def ofScientific (negative : Bool) (s : Scientific) (rest : Bytes) :
    Except JsonFailure (JsonNumber × Bytes) :=
  match s.toDouble? with
  | some x => .ok (.float (if negative then x.neg else x), rest)
  | none => .error ⟨.numberOutOfRange, rest⟩

/-- The number of a digit string alone: whole if 64 bits hold it, except for minus zero. -/
def ofDigits (negative : Bool) (ds : Bytes) (rest : Bytes) :
    Except JsonFailure (JsonNumber × Bytes) :=
  let s := Scientific.addInteger ⟨0, 0⟩ ds
  if s.exponent ≠ 0 then ofScientific negative s rest
  else if !negative then .ok (.integer s.significand, rest)
  else if 0 < s.significand && s.significand ≤ UInt64.size / 2 then .ok (.integer (-s.significand), rest)
  else ofScientific negative s rest

/-- The largest exponent that is counted; one more digit decides between zero and too great. -/
def maxExponent : Nat := 2147483647

def readExponentDigits : Nat → Bytes → Except Bytes (Nat × Bytes)
  | e, [] => .ok (e, [])
  | e, b :: rest =>
    if isDigit b then
      let next := e * 10 + digitValue b
      if next ≤ maxExponent then readExponentDigits next rest else .error rest
    else .ok (e, b :: rest)

def readExponent (negative : Bool) (s : Scientific) (bs : Bytes) :
    Except JsonFailure (JsonNumber × Bytes) :=
  let down := bs.head? == some '-'.toUInt8
  let bs := if down || bs.head? == some '+'.toUInt8 then bs.tail else bs
  match bs with
  | [] => .error ⟨.endInValue, []⟩
  | b :: rest =>
    if !isDigit b then .error ⟨.invalidNumber, rest⟩
    else
      match readExponentDigits 0 (b :: rest) with
      | .ok (e, rest) =>
        ofScientific negative ⟨s.significand, if down then s.exponent - e else s.exponent + e⟩ rest
      | .error rest =>
        if s.significand ≠ 0 && !down then .error ⟨.numberOutOfRange, rest⟩
        else ofScientific negative ⟨0, 0⟩ (rest.dropWhile isDigit)

def readAfterInteger (negative : Bool) (ds : Bytes) (bs : Bytes) :
    Except JsonFailure (JsonNumber × Bytes) :=
  let s := Scientific.addInteger ⟨0, 0⟩ ds
  match bs with
  | [] => ofDigits negative ds []
  | b :: rest =>
    if b = '.'.toUInt8 then
      let fraction := rest.takeWhile isDigit
      let after := rest.dropWhile isDigit
      if fraction.isEmpty then
        match after with
        | [] => .error ⟨.endInValue, []⟩
        | _ :: after => .error ⟨.invalidNumber, after⟩
      else
        let s := s.addFraction fraction
        match after with
        | [] => ofScientific negative s []
        | e :: behind =>
          if e = 'e'.toUInt8 || e = 'E'.toUInt8 then readExponent negative s behind
          else ofScientific negative s (e :: behind)
    else if b = 'e'.toUInt8 || b = 'E'.toUInt8 then readExponent negative s rest
    else ofDigits negative ds (b :: rest)

def readUnsigned (negative : Bool) : Bytes → Except JsonFailure (JsonNumber × Bytes)
  | [] => .error ⟨.endInValue, []⟩
  | b :: rest =>
    if b = '0'.toUInt8 then
      match rest with
      | [] => ofDigits negative [b] []
      | d :: after =>
        if isDigit d then .error ⟨.invalidNumber, after⟩ else readAfterInteger negative [b] rest
    else if isDigit b then
      readAfterInteger negative ((b :: rest).takeWhile isDigit) ((b :: rest).dropWhile isDigit)
    else .error ⟨.invalidNumber, rest⟩

end FleetWatch.JsonNumber
