import FleetWatch.Log.Guest
import FleetWatch.Storage.FileTree

/-!
# The logger of a process

Its filter, the ceiling for guests, and whether the log file is open.  It can be started again: the
filter changes, the ceiling does not, and a file that is open stays open.
-/

namespace FleetWatch.Log

def logFolder : String := "logs"

def logPath : String := "logs/fleetboard.log"

inductive FileOpening where
  | opened
  | noFolder
  | refused (reason : String)
deriving DecidableEq, Repr, Inhabited

def FileOpening.ofStates : (folder file : FileState) → FileOpening
  | .file _, _ => noFolder
  | _, .hidden reason | _, .unreadable reason => refused reason
  | _, _ => opened

def FileOpening.warning? : FileOpening → Option String
  | opened => none
  | noFolder => some ("⚠️  Could not create '" ++ logFolder ++ "', file logging disabled")
  | refused reason => some ("⚠️  Could not open log file, file logging disabled: " ++ reason)

structure Logger where
  filter : Filter := {}
  /-- The greatest level of guests that passes; none before the first start. -/
  ceiling : Option GuestLevel := none
  fileOpen : Bool := false
deriving DecidableEq, Repr, Inhabited

namespace Logger

def start (logger : Logger) (arguments : List String) (opening : FileOpening) : Logger :=
  let filter := Filter.ofArguments arguments
  { filter := filter
    ceiling := some (logger.ceiling.getD (GuestLevel.ceilingFor filter))
    fileOpen := logger.fileOpen || (filter.toFile && opening = .opened) }

def startWarning? (arguments : List String) (opening : FileOpening) : Option String :=
  if (Filter.ofArguments arguments).toFile then opening.warning? else none

def admits (logger : Logger) (g : GuestLevel) : Bool :=
  match logger.ceiling with
  | none => false
  | some ceiling =>
    g.rank ≤ ceiling.rank && (g.rank ≤ GuestLevel.warn.rank || logger.filter.opensDebug .http)

def ofGuest (logger : Logger) (g : GuestLevel) (target message : String) : List Record :=
  if logger.admits g then [Record.ofGuest g target message] else []

def shown (logger : Logger) (records : List Record) : List Record :=
  records.filter (·.passes logger.filter)

def ceilingName (logger : Logger) : String :=
  match logger.ceiling with
  | none => "OFF"
  | some ceiling => ceiling.name

end Logger
end FleetWatch.Log
