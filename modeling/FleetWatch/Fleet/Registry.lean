import FleetWatch.Fleet.Endpoint
import FleetWatch.Fleet.Failure
import FleetWatch.Text.Blank
import FleetWatch.Url.Address

/-!
# The registry

The fixed, ordered membership of a fleet.  Every entry of a configuration has to have a name and
an absolute web address; the first entry that has not is reported with its first fault.  The text
of an address is kept as it was written, without the white space around it.
-/

namespace FleetWatch

structure EndpointEntry where
  name : String
  baseUrl : String
deriving DecidableEq, Repr, Inhabited

namespace Registry

inductive EntryFault where
  | emptyName
  | invalidUrl (error : UrlError)
  | otherScheme (scheme : String)
deriving DecidableEq, Repr

def EntryFault.message (index : Nat) (entry : EndpointEntry) : EntryFault → String
  | emptyName => "endpoints[" ++ toString index ++ "]: name must not be empty"
  | invalidUrl error =>
    "endpoints[" ++ toString index ++ "] (" ++ trimBlanks entry.name ++ "): invalid base_url '" ++
      entry.baseUrl ++ "': " ++ error.message
  | otherScheme scheme =>
    "endpoints[" ++ toString index ++ "] (" ++ trimBlanks entry.name ++
      "): base_url must be http or https, got '" ++ scheme ++ "'"

/-- The endpoint of an entry; the faults are looked for in the order name, address, scheme. -/
def validate (entry : EndpointEntry) : Except EntryFault Endpoint :=
  let name := trimBlanks entry.name
  let baseUrl := trimBlanks entry.baseUrl
  if name.isEmpty then .error .emptyName
  else
    match Url.parse baseUrl with
    | .error e => .error (.invalidUrl e)
    | .ok url =>
      if url.scheme = "http" ∨ url.scheme = "https" then .ok ⟨name, baseUrl⟩
      else .error (.otherScheme url.scheme)

def ofEntriesFrom (index : Nat) : List EndpointEntry → Except StartupError (List Endpoint)
  | [] => .ok []
  | entry :: entries =>
    match validate entry with
    | .error fault => .error (.configuration (fault.message index entry))
    | .ok endpoint => (ofEntriesFrom (index + 1) entries).map (endpoint :: ·)

def ofEntries (entries : List EndpointEntry) : Except StartupError (List Endpoint) :=
  ofEntriesFrom 0 entries

end Registry
end FleetWatch
