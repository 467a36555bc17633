/-!
# Failures

Why a single status request failed, and why the dashboard could not start.
-/

namespace FleetWatch

inductive FetchError where
  | network (endpoint message : String)
  | timeout (endpoint : String) (limitMs : UInt64)
  | httpStatus (endpoint : String) (status : UInt16)
  | parse (endpoint message : String)
deriving DecidableEq, Repr

namespace FetchError

def kind : FetchError → String
  | network .. => "network"
  | timeout .. => "timeout"
  | httpStatus .. => "http_status"
  | parse .. => "parse"

def message : FetchError → String
  | network endpoint message => "request to " ++ endpoint ++ " failed: " ++ message
  | timeout endpoint limitMs =>
    "request to " ++ endpoint ++ " timed out after " ++ toString limitMs ++ "ms"
  | httpStatus endpoint status => "HTTP " ++ toString status ++ " from " ++ endpoint
  | parse endpoint message => "invalid JSON from " ++ endpoint ++ ": " ++ message

end FetchError

inductive StartupError where
  | configuration (message : String)
  | network (message : String)
deriving DecidableEq, Repr

def StartupError.message : StartupError → String
  | configuration message => "Configuration Error: " ++ message
  | network message => "Network Error: " ++ message

end FleetWatch
