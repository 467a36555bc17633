import FleetWatch.Text.Column

/-!
# Instants

A moment as seconds since 1970 in universal time and nanoseconds.  Nanoseconds from one billion up
stand for a leap second, which is written as second 60.
-/

namespace FleetWatch

structure Instant where
  seconds : Int
  nanos : Nat
deriving DecidableEq, Repr, Inhabited

namespace Instant

def nanosPerSecond : Nat := 1000000000

def secondOfDay (t : Instant) (offset : Int) : Nat := ((t.seconds + offset) % 86400).toNat

/-- `HH:MM:SS` of a second of the day; a leap second shows one more. -/
def clockOf (second : Nat) (leap : Bool) : String :=
  twoDigits (second / 3600) ++ ":" ++ twoDigits (second / 60 % 60) ++ ":" ++
    twoDigits (second % 60 + if leap then 1 else 0)

def isLeap (t : Instant) : Bool := decide (nanosPerSecond ≤ t.nanos)

def clock (t : Instant) (offset : Int) : String := clockOf (t.secondOfDay offset) t.isLeap

/-! ## Dates -/

structure Date where
  year : Int
  month : Nat
  day : Nat
deriving DecidableEq, Repr

/-- The Gregorian date of a count of days since 1970-01-01.

Counted in eras of 400 years that begin on a first of March, so that the leap day is the last day
of a year. -/
def dateOfDays (days : Int) : Date :=
  let shifted := days + 719468
  let era := shifted / 146097
  let dayOfEra := (shifted % 146097).toNat
  let yearOfEra := (dayOfEra - dayOfEra / 1460 + dayOfEra / 36524 - dayOfEra / 146096) / 365
  let dayOfYear := dayOfEra - (365 * yearOfEra + yearOfEra / 4 - yearOfEra / 100)
  let marchMonth := (5 * dayOfYear + 2) / 153
  let day := dayOfYear - (153 * marchMonth + 2) / 5 + 1
  let month := if marchMonth < 10 then marchMonth + 3 else marchMonth - 9
  ⟨yearOfEra + era * 400 + (if month ≤ 2 then 1 else 0), month, day⟩

def padZeros (width n : Nat) : String :=
  let digits := toString n
  String.ofList (List.replicate (width - digits.length) '0') ++ digits

/-- A year of four digits; outside 0 to 9999 with its sign. -/
def yearText (year : Int) : String :=
  if 0 ≤ year ∧ year ≤ 9999 then padZeros 4 year.toNat
  else (if year < 0 then "-" else "+") ++ padZeros 4 year.natAbs

def Date.text (d : Date) : String :=
  yearText d.year ++ "-" ++ twoDigits d.month ++ "-" ++ twoDigits d.day

/-- The fraction of a second in the shortest exact count of 0, 3, 6 or 9 digits. -/
def fractionText (nanos : Nat) : String :=
  if nanos = 0 then ""
  else if nanos % 1000000 = 0 then "." ++ padZeros 3 (nanos / 1000000)
  else if nanos % 1000 = 0 then "." ++ padZeros 6 (nanos / 1000)
  else "." ++ padZeros 9 nanos

def dateAndClock (t : Instant) (offset : Int) : String :=
  (dateOfDays ((t.seconds + offset) / 86400)).text ++ " " ++ t.clock offset

def timestamp (t : Instant) : String :=
  (dateOfDays (t.seconds / 86400)).text ++ "T" ++ t.clock 0 ++
    fractionText (if t.isLeap then t.nanos - nanosPerSecond else t.nanos) ++ "Z"

end Instant
end FleetWatch
