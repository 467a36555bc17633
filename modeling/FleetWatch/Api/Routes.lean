import FleetWatch.Api.Body
import FleetWatch.Log.Record

/-!
# Routes

What the web surface answers.  Two paths are known, written exactly; they can only be read.  Any
origin may ask.
-/

namespace FleetWatch.Api

inductive Route where
  | fleet
  | health
deriving DecidableEq, Repr

def Route.ofPath? : String → Option Route
  | "/api/fleet" => some .fleet
  | "/api/health" => some .health
  | _ => none

def pathOf (target : String) : String := String.ofList (target.toList.takeWhile (· != '?'))

structure Moment where
  now : Instant
  clock : String
  uptime : UInt64
deriving DecidableEq, Repr

structure Reply where
  status : UInt16
  headers : List (String × String)
  body : Option Json
deriving Inhabited

def version : String := "0.1.0"

def allowed : String × String := ("allow", "GET,HEAD")

def anyOrigin : String × String := ("access-control-allow-origin", "*")

def vary : String × String :=
  ("vary", "origin, access-control-request-method, access-control-request-headers")

/-- The headers of every answer but that to `OPTIONS`. -/
def commonHeaders : List (String × String) :=
  [anyOrigin, ("access-control-expose-headers", "*"), vary]

def optionsReply (route : Option Route) : Reply :=
  { status := 200
    headers := [("access-control-allow-headers", "*"), ("access-control-allow-methods", "*"),
      anyOrigin, vary] ++ if route.isSome then [allowed] else []
    body := none }

def jsonReply (status : UInt16) (body : Json) : Reply :=
  ⟨status, ("content-type", "application/json") :: commonHeaders, some body⟩

def routeBody (slot : Slot) (moment : Moment) : Route → Json
  | .fleet => (FleetReply.ofPublished slot moment.clock).json
  | .health => (⟨"ok", moment.now, version, moment.uptime, slot.cycle?⟩ : HealthReply).json

def notFoundBody (moment : Moment) (path : String) : Json :=
  (⟨"NOT_FOUND", "No route for " ++ path, none, moment.now⟩ : ErrorReply).json

/-- `HEAD` is answered as `GET` is, without the body. -/
def withoutBody (method : String) (r : Reply) : Reply :=
  if method = "HEAD" then { r with body := none } else r

def reply (slot : Slot) (moment : Moment) (method target : String) : Reply :=
  let path := pathOf target
  let route := Route.ofPath? path
  if method = "OPTIONS" then optionsReply route
  else
    withoutBody method <|
      match route with
      | none => jsonReply 404 (notFoundBody moment path)
      | some route =>
        if method = "GET" ∨ method = "HEAD" then jsonReply 200 (routeBody slot moment route)
        else ⟨405, allowed :: commonHeaders, none⟩

def routeRecord (slot : Slot) : Route → Log.Record
  | .fleet =>
    let board := (slot.map (·.board)).getD Board.empty
    ⟨.webserver, .debug,
      "Serving fleet view (cycle=" ++ countNote slot.cycle? ++ ", cards=" ++
        toString board.cards.length ++ ", rows=" ++ toString board.rows.length ++ ")"⟩
  | .health => ⟨.webserver, .debug, "Health check endpoint called"⟩

def records (slot : Slot) (method target : String) : List Log.Record :=
  if method = "GET" ∨ method = "HEAD" then
    ((Route.ofPath? (pathOf target)).map (routeRecord slot)).toList
  else []

end FleetWatch.Api
