import FleetWatch.Text.Utf8
import FleetWatch.Url.Written

/-!
# Exchanges

Requests, replies and redirects.  The network is a parameter: a function of the requests, of which
it counts how many came before.  An exchange follows redirects up to a fixed number of requests.

* `length_requests_follow`: how many requests an exchange sends at most.
-/

namespace FleetWatch.Http

abbrev Headers := List (String × String)

def Headers.value? (headers : Headers) (name : String) : Option String :=
  (headers.find? fun h => h.1.toLower = name).map (·.2)

structure Request where
  method : String
  url : Url
  headers : Headers
deriving Repr

inductive Body where
  | complete (content : Bytes)
  | broken (reason : String)
  | stalled
deriving DecidableEq, Repr

structure Response where
  status : UInt16
  headers : Headers
  body : Body
deriving DecidableEq, Repr

inductive Reply where
  /-- There is no connection, or no response that can be read. -/
  | failure (reason : String)
  /-- Nothing comes until the time is over. -/
  | silence
  | response (response : Response)
deriving DecidableEq, Repr

/-- The reply to a request, after some number of earlier ones. -/
abbrev Network := (earlier : Nat) → Request → Reply

def Network.unreachable (reason : String) : Network := fun _ _ => .failure reason

structure Exchange where
  requests : List Request
  /-- What the last request met with, once redirects have been followed. -/
  ending : Reply

/-! ## Redirects -/

def isRedirect (status : UInt16) : Bool := [301, 302, 303, 307, 308].contains status

def Response.redirect? (r : Response) (url : Url) : Option Url :=
  if isRedirect r.status then
    (r.headers.value? "location").bind fun reference => (url.follow reference).toOption
  else none

def referer (url : Url) : String := { url with fragment := none }.text

def Request.redirected (request : Request) (url : Url) : Request :=
  { request with
    url := url
    headers := request.headers.filter (·.1 ≠ "referer") ++ [("referer", referer request.url)] }

def sendFailure (url : Url) (reason : String) : String :=
  "error sending request for url (" ++ url.text ++ "): " ++ reason

def tooManyRedirects (url : Url) : String :=
  "error following redirect for url (" ++ url.text ++ "): too many redirects"

def maxRequests : Nat := 10

def follow (network : Network) : (left earlier : Nat) → Request → Exchange
  | left, earlier, request =>
    match network earlier request with
    | .failure reason => ⟨[], .failure (sendFailure request.url reason)⟩
    | .silence => ⟨[request], .silence⟩
    | .response r =>
      match r.redirect? request.url, left with
      | none, _ => ⟨[request], .response r⟩
      | some url, 0 => ⟨[request], .failure (tooManyRedirects url)⟩
      | some url, left + 1 =>
        let rest := follow network left (earlier + 1) (request.redirected url)
        ⟨request :: rest.requests, rest.ending⟩

theorem length_requests_follow (network : Network) (left earlier : Nat) (request : Request) :
    (follow network left earlier request).requests.length ≤ left + 1 := by
  induction left generalizing earlier request with
  | zero =>
    unfold follow
    cases network earlier request with
    | response r => cases h : r.redirect? request.url <;> simp [h]
    | _ => simp
  | succ left ih =>
    unfold follow
    cases network earlier request with
    | response r =>
      cases h : r.redirect? request.url with
      | none => simp [h]
      | some url => simpa [h] using ih (earlier + 1) (request.redirected url)
    | _ => simp

def exchange (network : Network) (request : Request) : Exchange :=
  follow network (maxRequests - 1) 0 request

end FleetWatch.Http
