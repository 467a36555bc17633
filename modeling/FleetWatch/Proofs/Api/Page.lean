import FleetWatch.Console.Render
import FleetWatch.Proofs.Api.Members

/-!
# One page on two surfaces

The board as text and the reply that the web surface gives are made apart from each other, both from
the cards and rows.  They show one page: its heading, cards and rows stand in the reply as texts and
severities, and the lines on the console are laid out from these alone.

* `Page.ofJson?_json`: the page of a reply can be read from its body.
* `Page.lines_ofPublished`: the lines of a board are those of the page of its reply.
* `Page.text_from_reply`: both together, line by line, and what follows for two boards.
-/

namespace FleetWatch

/-! ## Pages and their lines -/

structure ShownCard where
  name : String
  baseUrl : String
  badge : String
  severity : Severity
  uptimeText : String
  portText : String

structure ShownRow where
  title : String
  target : String
  severities : RowSeverities
  lastText : String
  p50Text : String
  p95Text : String
  samplesText : String

structure Page where
  clock : String
  connectivityLabel : String
  connectivitySeverity : Severity
  cards : List ShownCard
  rows : List ShownRow

def ShownCard.line (colours : Bool) (c : ShownCard) : String :=
  "  " ++ padRight 12 c.name ++ " " ++ padRight 32 c.baseUrl ++ " " ++
    Render.painted colours c.severity (padRight 4 c.badge) ++
    "  uptime " ++ padRight 10 c.uptimeText ++ " listen " ++ c.portText

def ShownRow.pill (colours : Bool) (name : String) (severity : Severity) (text : String) : String :=
  Render.painted colours severity (name ++ " " ++ padRight 9 text)

def ShownRow.line (colours : Bool) (r : ShownRow) : String :=
  "  " ++ padRight 28 r.title ++ " " ++ padRight 22 r.target ++ " " ++
    pill colours "last" r.severities.last r.lastText ++ "  " ++
    pill colours "p50" r.severities.p50 r.p50Text ++ "  " ++
    pill colours "p95" r.severities.p95 r.p95Text ++ "  " ++ r.samplesText

namespace Page

def heading (colours : Bool) (p : Page) : String :=
  "FleetBoard  " ++ p.clock ++ "  [" ++
    Render.painted colours p.connectivitySeverity p.connectivityLabel ++ "]"

def lines (colours : Bool) (p : Page) : List String :=
  p.heading colours ::
    "FLEET" :: Render.table "  (no endpoints configured)" (p.cards.map (·.line colours)) ++
    "LATENCY" :: Render.table "  (no probes reported)" (p.rows.map (·.line colours))

def text (colours : Bool) (p : Page) : String := String.intercalate "\n" (p.lines colours)

end Page

/-! ## The page of a reply -/

def CardReply.shown (r : CardReply) : ShownCard :=
  ⟨r.card.name, r.card.baseUrl, r.badge, r.severity, r.uptimeText, r.portText⟩

def RowReply.shown (r : RowReply) : ShownRow :=
  ⟨r.title, r.target, r.severities, r.lastText, r.p50Text, r.p95Text, r.samplesText⟩

def FleetReply.page (r : FleetReply) : Page :=
  ⟨r.clock, r.connectivityLabel, r.connectivitySeverity, r.cards.map (·.shown), r.rows.map (·.shown)⟩

/-! ## The page in a body -/

namespace Json

def text? (key : String) (v : Json) : Option String := (v.member? key).bind string?

def severity? (key : String) (v : Json) : Option Severity := (v.text? key).bind Severity.ofToken?

def list? (key : String) (v : Json) : Option (List Json) :=
  match v.member? key with
  | some (array items) => some items
  | _ => none

end Json

def ShownCard.ofJson? (v : Json) : Option ShownCard := do
  return ⟨← v.text? "name", ← v.text? "baseUrl", ← v.text? "badge", ← v.severity? "severity",
    ← v.text? "uptimeText", ← v.text? "portText"⟩

def RowSeverities.ofJson? (v : Json) : Option RowSeverities := do
  return ⟨← v.severity? "last", ← v.severity? "p50", ← v.severity? "p95"⟩

def ShownRow.ofJson? (v : Json) : Option ShownRow := do
  return ⟨← v.text? "title", ← v.text? "target",
    ← (v.member? "severities").bind RowSeverities.ofJson?, ← v.text? "lastText",
    ← v.text? "p50Text", ← v.text? "p95Text", ← v.text? "samplesText"⟩

def Page.ofJson? (v : Json) : Option Page := do
  return ⟨← v.text? "clock", ← v.text? "connectivityLabel", ← v.severity? "connectivitySeverity",
    ← (← v.list? "fleetCards").mapM ShownCard.ofJson?,
    ← (← v.list? "latencyRows").mapM ShownRow.ofJson?⟩

theorem mapM_map_eq_some {α β γ : Type} {f : α → β} {g : β → Option γ} {h : α → γ}
    (each : ∀ a, g (f a) = some (h a)) (l : List α) : (l.map f).mapM g = some (l.map h) := by
  induction l with
  | nil => rfl
  | cons a l ih => simp [each, ih]

theorem ShownCard.ofJson?_json (r : CardReply) : ofJson? r.json = some r.shown := by
  have severity : r.json.severity? "severity" = some r.severity :=
    Severity.ofToken?_token r.severity
  rw [ofJson?, severity]
  rfl

theorem RowSeverities.ofJson?_json (s : RowSeverities) : ofJson? s.json = some s := by
  have last : s.json.severity? "last" = some s.last := Severity.ofToken?_token s.last
  have p50 : s.json.severity? "p50" = some s.p50 := Severity.ofToken?_token s.p50
  have p95 : s.json.severity? "p95" = some s.p95 := Severity.ofToken?_token s.p95
  rw [ofJson?, last, p50, p95]
  rfl

theorem ShownRow.ofJson?_json (r : RowReply) : ofJson? r.json = some r.shown := by
  have severities : (r.json.member? "severities").bind RowSeverities.ofJson? = some r.severities :=
    RowSeverities.ofJson?_json r.severities
  rw [ofJson?, severities]
  rfl

namespace Page

theorem ofJson?_json (r : FleetReply) : ofJson? r.json = some r.page := by
  have severity : r.json.severity? "connectivitySeverity" = some r.connectivitySeverity :=
    Severity.ofToken?_token r.connectivitySeverity
  have cards : r.json.list? "fleetCards" = some (r.cards.map CardReply.json) := rfl
  have rows : r.json.list? "latencyRows" = some (r.rows.map RowReply.json) := rfl
  rw [ofJson?, severity, cards, rows]
  simp only [Option.bind_eq_bind, Option.bind_some, mapM_map_eq_some ShownCard.ofJson?_json,
    mapM_map_eq_some ShownRow.ofJson?_json]
  rfl

/-! ## Places of the lines -/

theorem length_table (emptyLine : String) (ls : List String) :
    (Render.table emptyLine ls).length = max 1 ls.length := by
  cases ls with
  | nil => rfl
  | cons l ls => simp [Render.table]

theorem table_getElem? (emptyLine : String) {line : String} {ls : List String} {i : Nat}
    (found : ls[i]? = some line) : (Render.table emptyLine ls)[i]? = some line := by
  cases ls with
  | nil => cases found
  | cons l ls => exact found

theorem length_lines (colours : Bool) (p : Page) :
    (p.lines colours).length = 3 + max 1 p.cards.length + max 1 p.rows.length := by
  simp only [lines, List.cons_append, List.length_cons, List.length_append, length_table,
    List.length_map]
  omega

theorem lines_card (colours : Bool) {p : Page} {i : Nat} {c : ShownCard}
    (shown : p.cards[i]? = some c) : (p.lines colours)[2 + i]? = some (c.line colours) := by
  have line : (p.cards.map (·.line colours))[i]? = some (c.line colours) := by
    rw [List.getElem?_map, shown]
    rfl
  have found := table_getElem? "  (no endpoints configured)" line
  have bound := (List.getElem?_eq_some_iff.1 found).1
  rw [Nat.add_comm 2 i, lines, List.cons_append, List.getElem?_cons_succ, List.cons_append,
    List.getElem?_cons_succ, List.getElem?_append_left bound]
  exact found

theorem lines_row (colours : Bool) {p : Page} {j : Nat} {r : ShownRow}
    (shown : p.rows[j]? = some r) :
    (p.lines colours)[3 + max 1 p.cards.length + j]? = some (r.line colours) := by
  have line : (p.rows.map (·.line colours))[j]? = some (r.line colours) := by
    rw [List.getElem?_map, shown]
    rfl
  have place : 3 + max 1 p.cards.length + j =
      max 1 (p.cards.map (·.line colours)).length + (j + 1) + 1 + 1 := by
    rw [List.length_map]
    omega
  rw [place, lines, List.cons_append, List.getElem?_cons_succ, List.cons_append,
    List.getElem?_cons_succ, List.getElem?_append_right (by rw [length_table]; omega), length_table,
    Nat.add_sub_cancel_left, List.getElem?_cons_succ]
  exact table_getElem? "  (no probes reported)" line

/-! ## The page of a board -/

theorem line_ofCard (colours : Bool) (card : Card) :
    (CardReply.ofCard card).shown.line colours = Render.cardLine colours card := rfl

theorem line_ofRow (colours : Bool) (row : Row) :
    (RowReply.ofRow row).shown.line colours = Render.rowLine colours row := rfl

theorem lines_ofPublished (colours : Bool) (published : Published) (clock : String) :
    (FleetReply.ofPublished (some published) clock).page.lines colours =
      Render.lines colours clock published.board := by
  simp only [lines, FleetReply.page, FleetReply.ofPublished, Option.map_some, Option.getD_some,
    List.map_map, Function.comp_def, line_ofCard, line_ofRow]
  rfl

theorem text_ofPublished (colours : Bool) (published : Published) (clock : String) :
    (FleetReply.ofPublished (some published) clock).page.text colours =
      Render.text colours clock published.board := by
  rw [text, lines_ofPublished, Render.text]

theorem text_from_reply (colours : Bool) (published : Published) (clock : String) :
    ∃ page, ofJson? (FleetReply.ofPublished (some published) clock).json = some page ∧
      page = (FleetReply.ofPublished (some published) clock).page ∧
      Render.text colours clock published.board = page.text colours ∧
      Render.lines colours clock published.board = page.lines colours ∧
      page.cards.length = published.board.cards.length ∧
      page.rows.length = published.board.rows.length ∧
      (page.lines colours).length = 3 + max 1 page.cards.length + max 1 page.rows.length ∧
      (page.lines colours)[0]? = some (page.heading colours) ∧
      (∀ (i : Nat) (c : ShownCard), page.cards[i]? = some c →
        (page.lines colours)[2 + i]? = some (c.line colours)) ∧
      (∀ (j : Nat) (r : ShownRow), page.rows[j]? = some r →
        (page.lines colours)[3 + max 1 page.cards.length + j]? = some (r.line colours)) ∧
      ∀ (other : Published) (clock' : String),
        ofJson? (FleetReply.ofPublished (some other) clock').json = some page →
        Render.text colours clock' other.board = Render.text colours clock published.board := by
  refine ⟨_, ofJson?_json _, rfl, (text_ofPublished ..).symm, (lines_ofPublished ..).symm, ?_, ?_,
    length_lines .., rfl, fun i c => lines_card colours, fun j r => lines_row colours, ?_⟩
  · simp [FleetReply.page, FleetReply.ofPublished]
  · simp [FleetReply.page, FleetReply.ofPublished]
  · intro other clock' same
    rw [ofJson?_json, Option.some.injEq] at same
    rw [← text_ofPublished, same, text_ofPublished]

end Page
end FleetWatch
