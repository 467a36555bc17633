import FleetWatch.Number.Binary64

/-!
# The shortest decimal that reads back

A finite positive double owns an interval of reals that round to it: half-way to either
neighbour, the ends included when its significand is even.  `shortestDecimal` takes the first of
the grids with 1, 2, … 17 significant digits that has a point in the interval; of two such points
the nearer, and of two equally near ones the even.
-/

namespace FleetWatch

structure Decimal where
  digits : Nat
  exponent : Int
deriving DecidableEq, Repr

namespace Decimal

/-- The reals that round to one double, in quarters of the unit `2 ^ -1074`. -/
structure Interval where
  low : Nat
  value : Nat
  high : Nat
  closed : Bool

/-- The interval of the double with these magnitude bits.

The gap below a power of two is half the gap above it, except where numbers lose their leading
digit. -/
def Interval.ofBits (magnitude : Nat) : Interval :=
  let exponent := magnitude / Binary64.fractionCount
  let gap := Nat.pow 2 (exponent - 1)
  let units := Binary64.unitsOfBits magnitude
  let below := if magnitude % Binary64.fractionCount = 0 && 1 < exponent then gap else 2 * gap
  ⟨4 * units - below, 4 * units, 4 * units + 2 * gap, magnitude % 2 == 0⟩

/-- The interval measured on the decimal grid `10 ^ exponent`: both factors make it whole. -/
def gridScale (exponent : Int) : Nat × Nat :=
  let quarters := 4 * Binary64.unitsOfOne
  if 0 ≤ exponent then (1, Nat.pow 10 exponent.toNat * quarters)
  else (Nat.pow 10 (-exponent).toNat, quarters)

def onGrid (interval : Interval) (exponent : Int) : Option Nat :=
  let (up, down) := gridScale exponent
  let value := interval.value * up
  let inside (d : Nat) : Bool :=
    if interval.closed then
      decide (interval.low * up ≤ d * down) && decide (d * down ≤ interval.high * up)
    else
      decide (interval.low * up < d * down) && decide (d * down < interval.high * up)
  let below := value / down
  match inside below, inside (below + 1) with
  | true, true => some (roundHalfEven value down)
  | true, false => some below
  | false, true => some (below + 1)
  | false, false => none

def stripZeros : Nat → Decimal → Decimal
  | 0, d => d
  | limit + 1, d =>
    if d.digits % 10 = 0 then stripZeros limit ⟨d.digits / 10, d.exponent + 1⟩ else d

def firstGrid (interval : Interval) : Nat → Int → Option Decimal
  | 0, _ => none
  | count + 1, exponent =>
    match onGrid interval exponent with
    | some d => some (stripZeros 1 ⟨d, exponent⟩)
    | none => firstGrid interval count (exponent - 1)

/-- The number of `k` below `limit`, counted up from `k`, for which `10 ^ k * units` is less than
one: how many zeros follow the point. -/
def leadingZeros : Nat → Nat → Nat
  | 0, _ => 0
  | limit + 1, units => if Binary64.unitsOfOne ≤ units then 0 else leadingZeros limit (units * 10) + 1

def leadingExponent (units : Nat) : Int :=
  if Binary64.unitsOfOne ≤ units then ((Nat.toDigits 10 (units / Binary64.unitsOfOne)).length : Int) - 1
  else -(leadingZeros 400 units : Int)

end Decimal

def shortestDecimal (x : Binary64) : Decimal :=
  if x.units = 0 then ⟨0, 0⟩
  else
    (Decimal.firstGrid (Decimal.Interval.ofBits x.magnitudeBits) 17
      (Decimal.leadingExponent x.units)).getD ⟨0, 0⟩

end FleetWatch
