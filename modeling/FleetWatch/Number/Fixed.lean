import FleetWatch.Number.Binary64

/-!
# Two decimals

The exact value of a double rounded to hundredths, ties to the even hundredth, and its text.
-/

namespace FleetWatch

def Binary64.hundredths (x : Binary64) : Nat := roundHalfEven (x.units * 100) unitsOfOne

def hundredthsText (n : Nat) : String :=
  toString (n / 100) ++ "." ++ toString (n / 10 % 10) ++ toString (n % 10)

/-- A finite number with two decimals; the sign bit is written, also before zero. -/
def twoDecimals (x : Binary64) : String :=
  (if x.isNegative then "-" else "") ++ hundredthsText x.hundredths

end FleetWatch
