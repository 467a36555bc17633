import FleetWatch.Fleet.Severity

/-!
# Coloured text

A painted text stands between an escape sequence that sets its look and one that resets it.
-/

namespace FleetWatch

inductive Colour where
  | black
  | red
  | green
  | yellow
  | blue
  | magenta
  | cyan
  | white
deriving DecidableEq, Repr

def Colour.code : Colour → Nat
  | black => 90
  | red => 91
  | green => 92
  | yellow => 93
  | blue => 94
  | magenta => 95
  | cyan => 96
  | white => 97

inductive Paint where
  | plain (colour : Colour)
  | bold (colour : Colour)
  | dimmed
deriving DecidableEq, Repr

namespace Paint

def parameters : Paint → String
  | plain colour => toString colour.code
  | bold colour => "1;" ++ toString colour.code
  | dimmed => "2"

def opening (paint : Paint) : String := "\x1b[" ++ paint.parameters ++ "m"

def reset : String := "\x1b[0m"

def apply (colours : Bool) (paint : Paint) (s : String) : String :=
  if colours then paint.opening ++ s ++ reset else s

/-- Whether colours are wanted, by the variables of the environment; one that is set counts as on
unless it is `0`, and forcing wins over refusing. -/
def wanted (value? : String → Option String) (terminal : Bool) : Bool :=
  let isOn (s : String) : Bool := s ≠ "0"
  if (value? "CLICOLOR_FORCE").any isOn then true
  else if (value? "NO_COLOR").isSome then false
  else ((value? "CLICOLOR").all isOn) && terminal

def ofSeverity : Severity → Paint
  | .ok => plain .green
  | .good => plain .green
  | .warn => plain .yellow
  | .bad => plain .red

end Paint
end FleetWatch
