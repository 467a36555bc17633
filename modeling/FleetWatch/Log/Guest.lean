import FleetWatch.Log.Record

/-!
# Guest records

The components that the program is built on log by five levels of their own.  Their records share
one tag.  How much of them passes at all is fixed by the first start of the logger; below that, the
current filter decides.
-/

namespace FleetWatch.Log

inductive GuestLevel where
  | error
  | warn
  | info
  | debug
  | trace
deriving DecidableEq, Repr, Inhabited

namespace GuestLevel

def all : List GuestLevel := [error, warn, info, debug, trace]

def name : GuestLevel → String
  | error => "ERROR"
  | warn => "WARN"
  | info => "INFO"
  | debug => "DEBUG"
  | trace => "TRACE"

def level : GuestLevel → Level
  | error => .error
  | warn => .warning
  | info => .info
  | debug => .debug
  | trace => .verbose

def rank (g : GuestLevel) : Nat := g.level.rank

/-- The greatest level that a filter wants of guests when the logger starts. -/
def ceilingFor (filter : Filter) : GuestLevel :=
  if filter.opensDebug .http then debug else warn

end GuestLevel

def Record.ofGuest (g : GuestLevel) (target message : String) : Record :=
  ⟨.http, g.level, target ++ ": " ++ message⟩

end FleetWatch.Log
