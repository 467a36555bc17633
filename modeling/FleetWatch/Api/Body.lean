import FleetWatch.Fleet.Slot

/-!
# Bodies of the web surface

The published board with the hints that a view layer needs, health answers and error answers, as
JSON.
-/

namespace FleetWatch

namespace Api

/-- An infinity or a NaN is no JSON number and stands as absent. -/
def latency (ms : Latency) : Json :=
  Json.ofOption (fun x => .number (.float x)) (ms.filter Binary64.isFinite)

def count (n : UInt64) : Json := Json.nat n.toNat

def port (p : Option UInt16) : Json := Json.ofOption (fun p => Json.nat p.toNat) p

def severity (s : Severity) : Json := .string s.token

/-! ## The board alone -/

def cardMembers (card : Card) : Json.Members :=
  [("name", .string card.name), ("baseUrl", .string card.baseUrl), ("healthy", .bool card.healthy),
    ("uptimeSeconds", Json.ofOption count card.uptime), ("listenPort", port card.port)]

def rowMembers (row : Row) : Json.Members :=
  [("endpointName", .string row.endpoint), ("label", .string row.label),
    ("host", .string row.host), ("port", port row.port), ("lastMs", latency row.last),
    ("p50Ms", latency row.p50), ("p95Ms", latency row.p95), ("samples", count row.samples)]

def board (b : Board) : Json :=
  .object
    [("fleetCards", .array (b.cards.map fun card => .object (cardMembers card))),
      ("latencyRows", .array (b.rows.map fun row => .object (rowMembers row))),
      ("connected", .bool b.connected)]

end Api

/-! ## Boards with hints -/

structure CardReply where
  card : Card
  badge : String
  severity : Severity
  uptimeText : String
  portText : String
deriving DecidableEq

def CardReply.ofCard (card : Card) : CardReply :=
  ⟨card, healthLabel card.healthy, card.severity, FleetWatch.uptimeText card.uptime,
    FleetWatch.portText card.port⟩

def CardReply.json (r : CardReply) : Json :=
  .object (Api.cardMembers r.card ++
    [("badge", .string r.badge), ("severity", Api.severity r.severity),
      ("uptimeText", .string r.uptimeText), ("portText", .string r.portText)])

structure RowSeverities where
  last : Severity
  p50 : Severity
  p95 : Severity
deriving DecidableEq

def Row.severities (row : Row) : RowSeverities :=
  ⟨row.last.severity, row.p50.severity, row.p95.severity⟩

def RowSeverities.json (s : RowSeverities) : Json :=
  .object [("last", Api.severity s.last), ("p50", Api.severity s.p50), ("p95", Api.severity s.p95)]

structure RowReply where
  row : Row
  title : String
  target : String
  severities : RowSeverities
  lastText : String
  p50Text : String
  p95Text : String
  samplesText : String
deriving DecidableEq

def RowReply.ofRow (row : Row) : RowReply :=
  ⟨row, row.title, row.target, row.severities, row.last.text, row.p50.text, row.p95.text,
    FleetWatch.samplesText row.samples⟩

def RowReply.json (r : RowReply) : Json :=
  .object (Api.rowMembers r.row ++
    [("title", .string r.title), ("target", .string r.target), ("severities", r.severities.json),
      ("lastText", .string r.lastText), ("p50Text", .string r.p50Text),
      ("p95Text", .string r.p95Text), ("samplesText", .string r.samplesText)])

structure FleetReply where
  cycle : Option UInt64
  publishedAt : Option Instant
  clock : String
  connected : Bool
  connectivityLabel : String
  connectivitySeverity : Severity
  cards : List CardReply
  rows : List RowReply
deriving DecidableEq

namespace FleetReply

/-- The reply of what is published; before the first cycle, an empty and disconnected board. -/
def ofPublished (published : Option Published) (clock : String) : FleetReply :=
  let board := (published.map (·.board)).getD Board.empty
  { cycle := published.map (·.cycle)
    publishedAt := published.map (·.publishedAt)
    clock := clock
    connected := board.connected
    connectivityLabel := FleetWatch.connectivityLabel board.connected
    connectivitySeverity := FleetWatch.connectivitySeverity board.connected
    cards := board.cards.map CardReply.ofCard
    rows := board.rows.map RowReply.ofRow }

def json (r : FleetReply) : Json :=
  .object
    [("cycle", Json.ofOption Api.count r.cycle),
      ("publishedAt", Json.ofOption (fun t => .string t.timestamp) r.publishedAt),
      ("clock", .string r.clock), ("connected", .bool r.connected),
      ("connectivityLabel", .string r.connectivityLabel),
      ("connectivitySeverity", Api.severity r.connectivitySeverity),
      ("fleetCards", .array (r.cards.map CardReply.json)),
      ("latencyRows", .array (r.rows.map RowReply.json))]

end FleetReply

/-! ## Health and errors -/

structure HealthReply where
  status : String
  timestamp : Instant
  version : String
  uptimeSeconds : UInt64
  cycle : Option UInt64
deriving DecidableEq

def HealthReply.json (r : HealthReply) : Json :=
  .object
    [("status", .string r.status), ("timestamp", .string r.timestamp.timestamp),
      ("version", .string r.version), ("uptime_seconds", Api.count r.uptimeSeconds),
      ("cycle", Json.ofOption Api.count r.cycle)]

structure ErrorReply where
  code : String
  message : String
  details : Option String
  timestamp : Instant
deriving DecidableEq

def ErrorReply.json (r : ErrorReply) : Json :=
  .object
    [("error", .object
      [("code", .string r.code), ("message", .string r.message),
        ("details", Json.ofOption Json.string r.details),
        ("timestamp", .string r.timestamp.timestamp)])]

end FleetWatch
