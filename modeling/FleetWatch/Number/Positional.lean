import FleetWatch.Number.Shortest

/-!
# Positional decimals

The shortest digits that read back, without an exponent, and always with a point.
-/

namespace FleetWatch

def Decimal.positional (d : Decimal) : List Char :=
  let digits := Nat.toDigits 10 d.digits
  if 0 ≤ d.exponent then digits ++ List.replicate d.exponent.toNat '0' ++ ['.', '0']
  else
    let places := d.exponent.natAbs
    let padded := List.replicate (places + 1 - digits.length) '0' ++ digits
    padded.take (padded.length - places) ++ '.' :: padded.drop (padded.length - places)

def positionalText (x : Binary64) : String :=
  if x.isNaN then "NaN"
  else
    (if x.isNegative then "-" else "") ++
      if x.isFinite then String.ofList (shortestDecimal x).positional else "inf"

end FleetWatch
