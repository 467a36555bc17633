/-!
# Severities and labels

The four display tokens, and the two-valued classifications that have no number behind them.
-/

namespace FleetWatch

inductive Severity where
  | ok
  | good
  | warn
  | bad
deriving DecidableEq, Repr, Inhabited

def Severity.token : Severity → String
  | ok => "ok"
  | good => "good"
  | warn => "warn"
  | bad => "bad"

def healthSeverity (healthy : Bool) : Severity := if healthy then .ok else .bad

def healthLabel (healthy : Bool) : String := if healthy then "OK" else "DOWN"

def connectivityLabel (connected : Bool) : String :=
  if connected then "CONNECTED" else "DISCONNECTED"

def connectivitySeverity (connected : Bool) : Severity := healthSeverity connected

/-! ## Optional metadata -/

def unknownText : String := "--"

def optionText (f : α → String) : Option α → String
  | some a => f a
  | none => unknownText

def uptimeText (uptime : Option UInt64) : String := optionText (fun n => toString n ++ "s") uptime

def portText (port : Option UInt16) : String := optionText toString port

def countNote (n : Option UInt64) : String :=
  match n with
  | none => "None"
  | some n => "Some(" ++ toString n ++ ")"

def samplesText (samples : UInt64) : String := "n " ++ toString samples

end FleetWatch
