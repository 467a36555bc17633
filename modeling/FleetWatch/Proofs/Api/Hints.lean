import FleetWatch.Proofs.Api.Members

/-!
# The reply as the board and hints

The reply holds every card and row of the board with hints beside their members.  The hints are made
from the board, and an infinity or a NaN is gone in the body; still each hint can be made again from
the members that stand beside it.

* `Json.restrict_card`, `Json.restrict_row`: without the hints, what is left is the board's.
* `CardHints.of_card`, `RowHints.of_row`: every hint follows from the members beside it.
* `reply_extends_board`: the whole body.
-/

namespace FleetWatch

/-! ## Members without the hints -/

def Json.restrict (keys : List String) : Json → Json
  | object members => object (members.filter fun m => keys.contains m.1)
  | v => v

def cardKeys : List String := ["name", "baseUrl", "healthy", "uptimeSeconds", "listenPort"]

def rowKeys : List String :=
  ["endpointName", "label", "host", "port", "lastMs", "p50Ms", "p95Ms", "samples"]

theorem Json.restrict_card (r : CardReply) :
    r.json.restrict cardKeys = .object (Api.cardMembers r.card) := by
  rfl

theorem Json.restrict_row (r : RowReply) :
    r.json.restrict rowKeys = .object (Api.rowMembers r.row) := by
  rfl

/-! ## Each key once -/

section
open Json

theorem wellFormed_ofOption {α : Type} {f : α → Json} (each : ∀ a, (f a).WellFormed)
    (a : Option α) : (ofOption f a).WellFormed := by
  cases a with
  | none => exact .null
  | some a => exact each a

theorem wellFormed_count (n : Option UInt64) : (ofOption Api.count n).WellFormed :=
  wellFormed_ofOption (fun _ => .number _) n

theorem wellFormed_port (p : Option UInt16) : (Api.port p).WellFormed :=
  wellFormed_ofOption (fun _ => .number _) p

theorem wellFormed_latency (ms : Latency) : (Api.latency ms).WellFormed :=
  wellFormed_ofOption (fun _ => .number _) _

theorem CardReply.wellFormed_json (r : CardReply) : r.json.WellFormed := by
  have keys : (cardKeys ++ ["badge", "severity", "uptimeText", "portText"]).Nodup := by decide
  refine .object keys ?_
  simp [Api.cardMembers, Api.severity, wellFormed_count, wellFormed_port]

theorem RowSeverities.wellFormed_json (s : RowSeverities) : s.json.WellFormed := by
  have keys : ["last", "p50", "p95"].Nodup := by decide
  refine .object keys ?_
  simp [Api.severity]

theorem RowReply.wellFormed_json (r : RowReply) : r.json.WellFormed := by
  have keys : (rowKeys ++ ["title", "target", "severities", "lastText", "p50Text", "p95Text",
      "samplesText"]).Nodup := by decide
  refine .object keys ?_
  simp [Api.rowMembers, Api.count, Json.nat, wellFormed_port, wellFormed_latency,
    RowSeverities.wellFormed_json]

theorem FleetReply.wellFormed_json (r : FleetReply) : r.json.WellFormed := by
  have keys : ["cycle", "publishedAt", "clock", "connected", "connectivityLabel",
      "connectivitySeverity", "fleetCards", "latencyRows"].Nodup := by decide
  have moment : (ofOption (fun t : Instant => string t.timestamp) r.publishedAt).WellFormed :=
    wellFormed_ofOption (fun _ => .string _) _
  refine .object keys ?_
  simp [Api.severity, wellFormed_count, moment, CardReply.wellFormed_json, RowReply.wellFormed_json]

end

/-! ## Hints beside what they are made from -/

/-- The hints of a card, made again from the members beside them. -/
def CardHints (c : Json) : Prop :=
  ∃ (healthy : Bool) (uptime port : Json), c.member? "healthy" = some (.bool healthy) ∧
    c.member? "uptimeSeconds" = some uptime ∧ c.member? "listenPort" = some port ∧
    c.member? "badge" = some (.string (healthLabel healthy)) ∧
    c.member? "severity" = some (.string (healthSeverity healthy).token) ∧
    c.member? "uptimeText" = some (.string (uptimeText uptime.unsigned?)) ∧
    c.member? "portText" = some (.string (portText port.port?))

/-- Text and severity of one latency of a row; `null` reads as absent. -/
def PillHints (r : Json) (ms text severity : String) : Prop :=
  ∃ v : Json, r.member? ms = some v ∧
    r.member? text = some (.string (Latency.text v.double?)) ∧
    (r.member? "severities").bind (·.member? severity) =
      some (.string (Latency.severity v.double?).token) ∧
    (v = .null → r.member? text = some (.string "--") ∧
      (r.member? "severities").bind (·.member? severity) = some (.string "bad"))

def RowHints (r : Json) : Prop :=
  (∃ (endpoint label host : String) (port : Json),
    r.member? "endpointName" = some (.string endpoint) ∧ r.member? "label" = some (.string label) ∧
    r.member? "host" = some (.string host) ∧ r.member? "port" = some port ∧
    r.member? "title" = some (.string (endpoint ++ " · " ++ label)) ∧
    r.member? "target" = some (.string (host ++ ":" ++ portText port.port?))) ∧
  (∃ samples : UInt64, r.member? "samples" = some (Api.count samples) ∧
    r.member? "samplesText" = some (.string (samplesText samples))) ∧
  PillHints r "lastMs" "lastText" "last" ∧ PillHints r "p50Ms" "p50Text" "p50" ∧
  PillHints r "p95Ms" "p95Text" "p95"

theorem CardHints.of_card (card : Card) : CardHints (CardReply.ofCard card).json := by
  refine ⟨card.healthy, _, _, rfl, rfl, rfl, rfl, rfl, ?_, ?_⟩
  · rw [Api.unsigned?_count]
    rfl
  · rw [Api.port?_port]
    rfl

theorem PillHints.of_latency {r : Json} {ms text severity : String} (x : Latency)
    (number : r.member? ms = some (Api.latency x))
    (shown : r.member? text = some (.string x.text))
    (classed : (r.member? "severities").bind (·.member? severity) =
      some (.string x.severity.token)) : PillHints r ms text severity := by
  rw [← x.text_filter, ← Api.double?_latency] at shown
  rw [← x.severity_filter, ← Api.double?_latency] at classed
  refine ⟨_, number, shown, classed, ?_⟩
  intro absent
  rw [absent] at shown classed
  exact ⟨shown, classed⟩

theorem RowHints.of_row (row : Row) : RowHints (RowReply.ofRow row).json := by
  refine ⟨⟨row.endpoint, row.label, row.host, _, rfl, rfl, rfl, rfl, rfl, ?_⟩,
    ⟨row.samples, rfl, rfl⟩, .of_latency row.last rfl rfl rfl, .of_latency row.p50 rfl rfl rfl,
    .of_latency row.p95 rfl rfl rfl⟩
  rw [Api.port?_port]
  rfl

/-! ## The statement -/

theorem restricted_cards (cards : List Card) :
    (cards.map fun card => (CardReply.ofCard card).json).map (·.restrict cardKeys) =
      cards.map fun card => .object (Api.cardMembers card) := by
  simp only [List.map_map, Function.comp_def, Json.restrict_card]
  rfl

theorem restricted_rows (rows : List Row) :
    (rows.map fun row => (RowReply.ofRow row).json).map (·.restrict rowKeys) =
      rows.map fun row => .object (Api.rowMembers row) := by
  simp only [List.map_map, Function.comp_def, Json.restrict_row]
  rfl

theorem reply_extends_board (published : Option Published) (clock : String) :
    let body := (FleetReply.ofPublished published clock).json
    let board := (published.map (·.board)).getD Board.empty
    body.WellFormed ∧
    body.member? "clock" = some (.string clock) ∧
    body.member? "cycle" = some (Json.ofOption Api.count (published.map (·.cycle))) ∧
    body.member? "publishedAt" =
      some (Json.ofOption (fun t => .string t.timestamp) (published.map (·.publishedAt))) ∧
    (∃ connected : Bool, body.member? "connected" = some (.bool connected) ∧
      (Api.board board).member? "connected" = some (.bool connected) ∧
      body.member? "connectivityLabel" = some (.string (connectivityLabel connected)) ∧
      body.member? "connectivitySeverity" = some (.string (connectivitySeverity connected).token)) ∧
    (∃ cards : List Json, body.member? "fleetCards" = some (.array cards) ∧
      cards.length = board.cards.length ∧
      (Api.board board).member? "fleetCards" = some (.array (cards.map (·.restrict cardKeys))) ∧
      ∀ c ∈ cards, CardHints c) ∧
    (∃ rows : List Json, body.member? "latencyRows" = some (.array rows) ∧
      rows.length = board.rows.length ∧
      (Api.board board).member? "latencyRows" = some (.array (rows.map (·.restrict rowKeys))) ∧
      ∀ r ∈ rows, RowHints r) ∧
    (published = none →
      body.member? "fleetCards" = some (.array []) ∧ body.member? "latencyRows" = some (.array []) ∧
      body.member? "connected" = some (.bool false) ∧
      body.member? "cycle" = some .null ∧ body.member? "publishedAt" = some .null) := by
  intro body board
  have cards : body.member? "fleetCards" =
      some (.array (board.cards.map fun card => (CardReply.ofCard card).json)) := by
    simp only [body, FleetReply.ofPublished, FleetReply.json, List.map_map]
    rfl
  have rows : body.member? "latencyRows" =
      some (.array (board.rows.map fun row => (RowReply.ofRow row).json)) := by
    simp only [body, FleetReply.ofPublished, FleetReply.json, List.map_map]
    rfl
  refine ⟨FleetReply.wellFormed_json _, rfl, rfl, rfl, ⟨board.connected, rfl, rfl, rfl, rfl⟩,
    ⟨_, cards, by simp, ?_, ?_⟩, ⟨_, rows, by simp, ?_, ?_⟩, ?_⟩
  · rw [restricted_cards]
    rfl
  · intro c member
    obtain ⟨card, -, rfl⟩ := List.mem_map.1 member
    exact .of_card card
  · rw [restricted_rows]
    rfl
  · intro r member
    obtain ⟨row, -, rfl⟩ := List.mem_map.1 member
    exact .of_row row
  · rintro rfl
    exact ⟨rfl, rfl, rfl, rfl, rfl⟩

end FleetWatch
