import FleetWatch.Fleet.Severity
import FleetWatch.Number.Fixed

/-!
# Latencies

A latency is a number of milliseconds, or absent.  Up to 10 it is good, up to 25 it is a warning;
above, below zero, absent or not a number it is bad.
-/

namespace FleetWatch

/-- A latency in milliseconds, absent if there is no defined sample. -/
abbrev Latency := Option Binary64

namespace Latency

def goodMax : Binary64 := Binary64.ofNat 10

def warnMax : Binary64 := Binary64.ofNat 25

def severity : Latency → Severity
  | none => .bad
  | some ms =>
    if Binary64.zero.le ms && ms.le goodMax then .good
    else if goodMax.lt ms && ms.le warnMax then .warn
    else .bad

def isShown (ms : Binary64) : Bool := ms.isFinite && Binary64.zero.le ms

def text : Latency → String
  | none => unknownText
  | some ms => if isShown ms then twoDecimals ms ++ "ms" else unknownText

end Latency
end FleetWatch
