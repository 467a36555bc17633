/-!
# Log levels

Errors, warnings, information, and two depths of detail.  A level that ranks higher is shown less
often.
-/

namespace FleetWatch.Log

inductive Level where
  | error
  | warning
  | info
  | debug
  | verbose
deriving DecidableEq, Repr, Inhabited

namespace Level

def all : List Level := [error, warning, info, debug, verbose]

def rank : Level → Nat
  | error => 0
  | warning => 1
  | info => 2
  | debug => 3
  | verbose => 4

def name : Level → String
  | error => "ERROR"
  | warning => "WARNING"
  | info => "INFO"
  | debug => "DEBUG"
  | verbose => "VERBOSE"

end Level
end FleetWatch.Log
