import FleetWatch.Number.Rounding

/-!
# Double-precision numbers

A number is its 64 bits.  Every finite one is a whole multiple of the unit `2 ^ -1074`, so its
value is an integer, `scaled`, and comparison and rounding are integer arithmetic.
-/

namespace FleetWatch

structure Binary64 where
  bits : UInt64
deriving DecidableEq, Inhabited

namespace Binary64

/-! ## Fields of the bit pattern -/

/-- The sign bit: `2 ^ 63`. -/
def signBit : Nat := 0x8000000000000000

/-- How many fractions share an exponent: `2 ^ 52`. -/
def fractionCount : Nat := 0x10000000000000

/-- How many units make one: `2 ^ 1074`. -/
def unitsOfOne : Nat := Nat.pow 2 1074

/-- The sign bit is set: true of `-0.0` and of a negated NaN too. -/
def isNegative (x : Binary64) : Bool := decide (signBit ≤ x.bits.toNat)

/-- The bits below the sign, in whose order magnitudes ascend. -/
def magnitudeBits (x : Binary64) : Nat := x.bits.toNat % signBit

/-- The magnitude bits of an infinity; a larger pattern is a NaN. -/
def infinityBits : Nat := 2047 * fractionCount

def isFinite (x : Binary64) : Bool := decide (x.magnitudeBits < infinityBits)

def isNaN (x : Binary64) : Bool := decide (infinityBits < x.magnitudeBits)

/-- How many units of `2 ^ -1074` the magnitude bits stand for. -/
def unitsOfBits (magnitude : Nat) : Nat :=
  let exponent := magnitude / fractionCount
  let fraction := magnitude % fractionCount
  if exponent = 0 then fraction else (fractionCount + fraction) * Nat.pow 2 (exponent - 1)

def units (x : Binary64) : Nat := unitsOfBits x.magnitudeBits

/-- The value in units of `2 ^ -1074`. -/
def scaled (x : Binary64) : Int := if x.isNegative then -(x.units : Int) else x.units

/-! ## Construction -/

def ofFields (negative : Bool) (magnitude : Nat) : Binary64 :=
  ⟨UInt64.ofNat ((if negative then signBit else 0) + magnitude % signBit)⟩

/-- The magnitude bits nearest to `num / den`, ties to even; beyond the range, an infinity's.

With `excess` more binary digits than a significand holds, the quotient is rounded at that digit,
and the sum carries into the exponent field when the significand overflows. -/
def magnitudeOfRatio (num den : Nat) : Nat :=
  let scaledNum := num * unitsOfOne
  let excess := (scaledNum / den).log2 + 1 - 53
  min infinityBits (excess * fractionCount + roundHalfEven scaledNum (den * Nat.pow 2 excess))

def ofRatio (negative : Bool) (num den : Nat) : Binary64 :=
  ofFields negative (magnitudeOfRatio num den)

def ofNat (n : Nat) : Binary64 := ofRatio false n 1

def ofInt (i : Int) : Binary64 := ofRatio (decide (i < 0)) i.natAbs 1

/-- The double nearest to `digits * 10 ^ exponent`.

`exponent` is looked at only inside the range where the answer is neither zero nor infinite for
every count of digits, so that no huge power is formed. -/
def ofDecimal (negative : Bool) (digits : Nat) (exponent : Int) : Binary64 :=
  if digits = 0 then ofFields negative 0
  else if 310 < exponent then ofFields negative infinityBits
  else if exponent < -(400 + (digits.log2 : Int)) then ofFields negative 0
  else if 0 ≤ exponent then ofRatio negative (digits * Nat.pow 10 exponent.toNat) 1
  else ofRatio negative digits (Nat.pow 10 (-exponent).toNat)

def zero : Binary64 := ofFields false 0

def infinity (negative : Bool) : Binary64 := ofFields negative infinityBits

def nan (negative : Bool) : Binary64 := ofFields negative (infinityBits + fractionCount / 2)

/-! ## Order and arithmetic -/

/-- Numeric order: false as soon as a NaN is compared, and `-0.0` equals `0.0`. -/
def le (x y : Binary64) : Bool := !x.isNaN && !y.isNaN && decide (x.scaled ≤ y.scaled)

def lt (x y : Binary64) : Bool := !x.isNaN && !y.isNaN && decide (x.scaled < y.scaled)

/-- The greater of two numbers; a NaN gives way to the other, and of equals the first stays. -/
def max (x y : Binary64) : Binary64 :=
  if x.isNaN then y else if x.lt y then y else x

def neg (x : Binary64) : Binary64 := ofFields (!x.isNegative) x.magnitudeBits

def mul (x y : Binary64) : Binary64 :=
  ofRatio (x.isNegative != y.isNegative) (x.units * y.units) (unitsOfOne * unitsOfOne)

def div (x y : Binary64) : Binary64 :=
  ofRatio (x.isNegative != y.isNegative) x.units y.units

/-! ## Whole numbers -/

def isWhole (x : Binary64) : Bool := decide (x.units % unitsOfOne = 0)

/-- A whole number of 64 bits.  The greatest number of 64 bits is no double; the bound is the double
next to it. -/
def isUnsigned (x : Binary64) : Bool :=
  x.isFinite && zero.le x && x.isWhole && x.lt (ofNat (UInt64.size - 1))

/-- The whole number of 64 bits next to `x` towards zero; what lies beyond is cut off at the ends of
the range, and a NaN is zero. -/
def toUInt64 (x : Binary64) : UInt64 :=
  if x.isNaN || x.isNegative then 0
  else UInt64.ofNat (min (x.units / unitsOfOne) (UInt64.size - 1))

end Binary64
end FleetWatch
