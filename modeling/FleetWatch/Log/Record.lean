import FleetWatch.Console.Paint
import FleetWatch.Log.Filter
import FleetWatch.Text.Column

/-!
# Log records

A message with its tag and level, and the lines it gives on the console and in the log file.  A
message may hold line ends of its own; only its first line has a head.
-/

namespace FleetWatch.Log

structure Record where
  tag : Tag
  level : Level
  message : String
deriving DecidableEq, Repr, Inhabited

def Tag.paint : Tag → Paint
  | system => .bold .yellow
  | config => .bold .white
  | fleet => .bold .cyan
  | poller => .bold .blue
  | webserver => .bold .magenta
  | http => .bold .black

def Level.paint : Level → Paint
  | error => .bold .red
  | warning => .bold .yellow
  | info => .plain .green
  | debug => .plain .blue
  | verbose => .dimmed

namespace Record

def consoleText (colours : Bool) (clock : String) (r : Record) : String :=
  Paint.dimmed.apply colours clock ++ " [" ++ r.tag.paint.apply colours (padRight 9 r.tag.name) ++
    "] [" ++ r.level.paint.apply colours (padRight 7 r.level.name) ++ "] " ++ r.message

def fileText (moment : String) (r : Record) : String :=
  moment ++ " [" ++ r.tag.name ++ "] [" ++ r.level.name ++ "] " ++ r.message

def passes (filter : Filter) (r : Record) : Bool := filter.allows r.tag r.level

end Record
end FleetWatch.Log
