/-!
# Rounding a quotient

The whole number nearest to `num / den`, a half going to the even neighbour.
Every rounding of this library, binary or decimal, is this one.
-/

namespace FleetWatch

def roundHalfEven (num den : Nat) : Nat :=
  let quotient := num / den
  let twice := 2 * (num % den)
  if twice < den then quotient
  else if den < twice then quotient + 1
  else quotient + quotient % 2

end FleetWatch
