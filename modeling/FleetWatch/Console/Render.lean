import FleetWatch.Console.Paint
import FleetWatch.Fleet.Board
import FleetWatch.Text.Column

/-!
# The board as text

A heading with the clock, a table of cards and a table of latency rows.  Columns have a minimal
width and never cut a text; what is painted is padded first.
-/

namespace FleetWatch.Render

def painted (colours : Bool) (severity : Severity) (s : String) : String :=
  Paint.apply colours (Paint.ofSeverity severity) s

def heading (colours : Bool) (clock : String) (connected : Bool) : String :=
  "FleetBoard  " ++ clock ++ "  [" ++
    painted colours (connectivitySeverity connected) (connectivityLabel connected) ++ "]"

def cardLine (colours : Bool) (card : Card) : String :=
  "  " ++ padRight 12 card.name ++ " " ++ padRight 32 card.baseUrl ++ " " ++
    painted colours card.severity (padRight 4 (healthLabel card.healthy)) ++
    "  uptime " ++ padRight 10 (uptimeText card.uptime) ++ " listen " ++ portText card.port

def pill (colours : Bool) (name : String) (ms : Latency) : String :=
  painted colours ms.severity (name ++ " " ++ padRight 9 ms.text)

def rowLine (colours : Bool) (row : Row) : String :=
  "  " ++ padRight 28 row.title ++ " " ++ padRight 22 row.target ++ " " ++
    pill colours "last" row.last ++ "  " ++ pill colours "p50" row.p50 ++ "  " ++
    pill colours "p95" row.p95 ++ "  " ++ samplesText row.samples

def table (emptyLine : String) (lines : List String) : List String :=
  if lines.isEmpty then [emptyLine] else lines

def lines (colours : Bool) (clock : String) (board : Board) : List String :=
  heading colours clock board.connected ::
    "FLEET" :: table "  (no endpoints configured)" (board.cards.map (cardLine colours)) ++
    "LATENCY" :: table "  (no probes reported)" (board.rows.map (rowLine colours))

def text (colours : Bool) (clock : String) (board : Board) : String :=
  String.intercalate "\n" (lines colours clock board)

/-- The text for a caller who asks for colours or does not, with the colours of the console forced on
or off: a colour that is asked for is written only where they are on. -/
def textFor (asked forced : Bool) (clock : String) (board : Board) : String :=
  text (asked && forced) clock board

end FleetWatch.Render
