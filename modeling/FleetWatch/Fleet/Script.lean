import FleetWatch.Fleet.Poll

/-!
# Scripts

Prepared fetches by the name of the endpoint, for a fleet without a network.  A name without one
fails at once.
-/

namespace FleetWatch

/-- The prepared fetches; the last one of a name counts. -/
structure Script where
  fetches : List (String × Fetch) := []
deriving Inhabited

namespace Script

def put (script : Script) (name : String) (f : Fetch) : Script := ⟨(name, f) :: script.fetches⟩

def remove (script : Script) (name : String) : Script :=
  ⟨script.fetches.filter (·.1 ≠ name)⟩

def fetch (script : Script) (endpoint : Endpoint) : Fetch :=
  match script.fetches.find? (·.1 = endpoint.name) with
  | some (_, f) => f
  | none => { result := .error (.network endpoint.name "no scripted response") }

def fetchAll (script : Script) (endpoints : List Endpoint) : List (Endpoint × Fetch) :=
  endpoints.map fun endpoint => (endpoint, script.fetch endpoint)

end Script
end FleetWatch
