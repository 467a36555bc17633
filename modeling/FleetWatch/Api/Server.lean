import FleetWatch.Config.Schema
import FleetWatch.Log.Record

/-!
# The web server

Binding the configured address, and what the server logs from its start to its end.
-/

namespace FleetWatch

inductive BindFault where
  | inUse
  | denied
  | other (reason : String)
deriving DecidableEq, Repr

def BindFault.message (host : String) (port : UInt16) : BindFault → String
  | inUse =>
    "Failed to bind to " ++ host ++ ":" ++ toString port ++ ": Address already in use\n\n" ++
      "Another process (possibly another fleetboard) is listening on port " ++ toString port ++
      ".\nChange [webserver].port in the config file or stop the other process."
  | denied =>
    "Failed to bind to " ++ host ++ ":" ++ toString port ++ ": Permission denied\n\n" ++
      "Port " ++ toString port ++ " requires elevated privileges on this system.\n" ++
      "Consider using a port above 1024."
  | other reason => "Failed to bind to " ++ host ++ ":" ++ toString port ++ ": " ++ reason

/-- The ports of one machine: those that are taken, and the next one that is free. -/
structure Ports where
  taken : List UInt16 := []
  free : UInt16 := 49152
deriving DecidableEq, Repr, Inhabited

namespace Ports

/-- The port that a server gets; port zero asks for any. -/
def bind (ports : Ports) (port : UInt16) : Except BindFault UInt16 :=
  if port = 0 then .ok ports.free
  else if ports.taken.contains port then .error .inUse
  else .ok port

end Ports

namespace Webserver

def disabled : Log.Record := ⟨.webserver, .info, "Webserver disabled in config"⟩

def addressText (host : String) : String :=
  if host = "localhost" then "127.0.0.1"
  else if host.contains ':' then "[" ++ host ++ "]"
  else host

def startRecords (host : String) (port : UInt16) : List Log.Record :=
  let place := "http://" ++ addressText host ++ ":" ++ toString port
  [⟨.webserver, .info, "Webserver listening on " ++ place⟩,
    ⟨.webserver, .debug, "Fleet view available at " ++ place ++ "/api/fleet"⟩]

def stopRecords : List Log.Record :=
  [⟨.webserver, .debug, "Received shutdown signal, stopping webserver..."⟩,
    ⟨.webserver, .info, "Webserver stopped gracefully"⟩]

def faultRecord (w : Webserver) (fault : BindFault) : Log.Record :=
  ⟨.webserver, .error, fault.message w.host w.port⟩

end Webserver
end FleetWatch
