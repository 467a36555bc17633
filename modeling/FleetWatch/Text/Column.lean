/-!
# Fixed-width columns

A text is padded with spaces on the right up to a width counted in scalar values; a longer text
is left as it is.

* `length_padRight`: the width after padding.
-/

namespace FleetWatch

def padRight (width : Nat) (s : String) : String :=
  s ++ String.ofList (List.replicate (width - s.length) ' ')

theorem length_padRight (width : Nat) (s : String) :
    (padRight width s).length = max width s.length := by
  simp [padRight]; omega

def twoDigits (n : Nat) : String := if n < 10 then "0" ++ toString n else toString n

end FleetWatch
