import FleetWatch.Fleet.StatusClient

/-!
# Setting up

The registry and the client of a configuration.  The registry comes first, so of two faults that of
the endpoints is reported.
-/

namespace FleetWatch

inductive SetupError where
  | endpoints (cause : StartupError)
  | client (cause : StartupError)
deriving DecidableEq, Repr

namespace SetupError

def stage : SetupError → String
  | endpoints _ => "Invalid [[endpoints]] configuration"
  | client _ => "Failed to build status fetcher"

def cause : SetupError → StartupError
  | endpoints cause => cause
  | client cause => cause

def message (e : SetupError) : String := e.stage ++ ": " ++ e.cause.message

end SetupError

structure Setup where
  endpoints : List Endpoint
  client : StatusClient
deriving DecidableEq, Repr

namespace Setup

def noEndpoints : Log.Record :=
  ⟨.config, .warning, "No endpoints configured; the dashboard will stay DISCONNECTED"⟩

def ofConfig (config : Config) : Except SetupError Setup := do
  let endpoints ← (Registry.ofEntries config.endpoints).mapError .endpoints
  let client ← (StatusClient.ofDashboard config.dashboard).mapError .client
  return ⟨endpoints, client⟩

def records (config : Config) : List Log.Record :=
  match Registry.ofEntries config.endpoints with
  | .ok [] => [noEndpoints]
  | _ => []

end Setup
end FleetWatch
