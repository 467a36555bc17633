import FleetWatch.Text.Leading

/-!
# Command line arguments

Flags, the value behind a flag, and the text that explains them.
-/

namespace FleetWatch.Arguments

/-- The argument behind the first occurrence of a flag. -/
def value? (flag : String) : List String → Option String
  | [] => none
  | a :: rest => if a = flag then rest.head? else value? flag rest

def wantsHelp (arguments : List String) : Bool :=
  arguments.contains "--help" || arguments.contains "-h"

def wantsOnce (arguments : List String) : Bool := arguments.contains "--once"

def configPath? (arguments : List String) : Option String := value? "--config" arguments

def defaultConfigPath : String := "data/config.toml"

def configPath (arguments : List String) : String :=
  (configPath? arguments).getD defaultConfigPath

def debugKeys (arguments : List String) : List String :=
  arguments.filterMap (keyAfter? "--debug-")

def usage : List String :=
  ["FleetBoard - live fleet status dashboard",
    "",
    "USAGE:",
    "    fleetboard [OPTIONS]",
    "",
    "OPTIONS:",
    "    --config <path>      Config file (default: data/config.toml)",
    "    --once               Run a single refresh cycle, print it and exit",
    "    --quiet              Only show warnings and errors",
    "    --verbose            Show verbose logs for every module",
    "    --verbose-<module>   Verbose logs for one module",
    "    --debug-<module>     Debug logs for one module (poller, fleet, webserver, config, http)",
    "    --no-log-file        Do not write logs/fleetboard.log",
    "    -h, --help           Print this help"]

end FleetWatch.Arguments
