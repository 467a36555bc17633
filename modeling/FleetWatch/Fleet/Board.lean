import FleetWatch.Fleet.Endpoint
import FleetWatch.Fleet.Report

/-!
# Boards

What one refresh cycle shows: a card per endpoint and a row per probe, both in fleet order, and
whether any endpoint answered.
-/

namespace FleetWatch

/-- What polling one endpoint gave: its report, or none. -/
abbrev Outcome := Option Report

structure Card where
  name : String
  baseUrl : String
  healthy : Bool
  uptime : Option UInt64
  port : Option UInt16
deriving DecidableEq, Inhabited

namespace Card

def up (name baseUrl : String) (uptime : Option UInt64) (port : Option UInt16) : Card :=
  ⟨name, baseUrl, true, uptime, port⟩

def down (name baseUrl : String) : Card := ⟨name, baseUrl, false, none, none⟩

def severity (card : Card) : Severity := healthSeverity card.healthy

end Card

structure Row where
  endpoint : String
  label : String
  host : String
  port : Option UInt16
  last : Latency
  p50 : Latency
  p95 : Latency
  samples : UInt64
deriving DecidableEq, Inhabited

namespace Row

def ofProbe (endpoint : String) (p : Probe) : Row :=
  ⟨endpoint, p.label, p.host, p.port, p.last, p.p50, p.p95, p.samples⟩

def title (row : Row) : String := row.endpoint ++ " · " ++ row.label

def target (row : Row) : String := row.host ++ ":" ++ portText row.port

end Row

structure Board where
  cards : List Card
  rows : List Row
  connected : Bool
deriving DecidableEq, Inhabited

namespace Board

def empty : Board := ⟨[], [], false⟩

def healthyCount (board : Board) : Nat := board.cards.countP (·.healthy)

def health (board : Board) : List Bool := board.cards.map (·.healthy)

def card (endpoint : Endpoint) : Outcome → Card
  | some report => Card.up endpoint.name endpoint.baseUrl report.uptime report.port
  | none => Card.down endpoint.name endpoint.baseUrl

def rowsOf (endpoint : Endpoint) : Outcome → List Row
  | some report => report.probes.map (Row.ofProbe endpoint.name)
  | none => []

/-- The board of a cycle, from outcomes aligned with the endpoints. -/
def aggregate (endpoints : List Endpoint) (outcomes : List Outcome) : Board :=
  { cards := endpoints.zipWith card outcomes
    rows := (endpoints.zipWith rowsOf outcomes).flatten
    connected := outcomes.any Option.isSome }

end Board
end FleetWatch
