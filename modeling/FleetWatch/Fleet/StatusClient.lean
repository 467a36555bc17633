import FleetWatch.Config.Schema
import FleetWatch.Fleet.Poll
import FleetWatch.Http.Exchange

/-!
# Status requests

The client that asks endpoints for their reports.  Only a response with a status from 200 to 299 is
looked into; everything else that can happen is a failure with a cause.

* `resultOf_not_success`: the body of any other response does not matter.
-/

namespace FleetWatch

structure StatusClient where
  statusPath : String
  timeoutMs : UInt64
  userAgent : String
deriving DecidableEq, Repr

namespace StatusClient

open Http

/-- A text can stand in a header: it has no control characters but tabs. -/
def isHeaderValue (s : String) : Bool :=
  (Utf8.encode s).all fun b => (32 ≤ b.toNat && b.toNat ≠ 127) || b.toNat = 9

def ofDashboard (d : Dashboard) : Except StartupError StatusClient :=
  if isHeaderValue d.userAgent then .ok ⟨d.statusPath, d.requestTimeoutMs, d.userAgent⟩
  else
    .error (.network
      "Failed to create HTTP client: builder error: failed to parse header value")

def url (client : StatusClient) (endpoint : Endpoint) : String :=
  statusUrl endpoint.baseUrl client.statusPath

def headers (client : StatusClient) : Headers :=
  [("accept", "*/*"), ("cache-control", "no-cache, no-store"), ("pragma", "no-cache"),
    ("user-agent", client.userAgent)]

def isSuccess (status : UInt16) : Bool := 200 ≤ status && status ≤ 299

def resultOf (client : StatusClient) (name : String) : Reply → Except FetchError Report
  | .failure reason => .error (.network name reason)
  | .silence => .error (.timeout name client.timeoutMs)
  | .response r =>
    if isSuccess r.status then
      match r.body with
      | .complete content => (Report.read content).mapError fun e => .parse name e.message
      | .broken reason => .error (.network name ("request or response body error: " ++ reason))
      | .stalled => .error (.timeout name client.timeoutMs)
    else .error (.httpStatus name r.status)

theorem resultOf_not_success (client : StatusClient) (name : String) {r : Response}
    (h : isSuccess r.status = false) :
    client.resultOf name (.response r) = .error (.httpStatus name r.status) := by
  simp [resultOf, h]

/-- The exchange with an endpoint; an address that cannot be read begins none. -/
def exchange (client : StatusClient) (network : Network) (endpoint : Endpoint) : Exchange :=
  match Url.parse (client.url endpoint) with
  | .error e => ⟨[], .failure ("builder error: " ++ e.message)⟩
  | .ok url => Http.exchange network ⟨"GET", url, client.headers⟩

def note (client : StatusClient) (endpoint : Endpoint) : Log.Record :=
  ⟨.poller, .verbose, "GET " ++ client.url endpoint ++ " (" ++ endpoint.name ++ ")"⟩

def fetch (client : StatusClient) (network : Network) (endpoint : Endpoint) : Fetch :=
  { result := client.resultOf endpoint.name (client.exchange network endpoint).ending
    notes := [client.note endpoint] }

def plan (client : StatusClient) (network : Network) (endpoints : List Endpoint) (_ : UInt64) :
    List (Endpoint × Fetch) :=
  endpoints.map fun endpoint => (endpoint, client.fetch network endpoint)

end StatusClient
end FleetWatch
