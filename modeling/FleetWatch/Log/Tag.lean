/-!
# Log tags

The part of the program that a record comes from.
-/

namespace FleetWatch.Log

inductive Tag where
  | system
  | config
  | fleet
  | poller
  | webserver
  | http
deriving DecidableEq, Repr, Inhabited

namespace Tag

def all : List Tag := [system, config, fleet, poller, webserver, http]

def key : Tag → String
  | system => "system"
  | config => "config"
  | fleet => "fleet"
  | poller => "poller"
  | webserver => "webserver"
  | http => "http"

def name : Tag → String
  | system => "SYSTEM"
  | config => "CONFIG"
  | fleet => "FLEET"
  | poller => "POLLER"
  | webserver => "WEBSERVER"
  | http => "HTTP"

def ofKey? (key : String) : Option Tag := all.find? (·.key = key)

end Tag
end FleetWatch.Log
