import FleetWatch.Fleet.Board
import FleetWatch.Log.Record

/-!
# Summaries

What is logged about a board and about the changes between boards.
-/

namespace FleetWatch

def Latency.worse (worst : Latency) (ms : Binary64) : Latency :=
  some (match worst with
    | none => ms
    | some w => w.max ms)

namespace Board

def worstP95 (board : Board) : Latency := (board.rows.filterMap (·.p95)).foldl Latency.worse none

def summary (board : Board) : String :=
  connectivityLabel board.connected ++ " (" ++ toString board.healthyCount ++ "/" ++
    toString board.cards.length ++ " up, " ++ toString board.rows.length ++ " probes, worst p95 " ++
    board.worstP95.text ++ ")"

end Board

namespace Log.Record

def ofBoard (cycle : UInt64) (board : Board) : Record :=
  ⟨.fleet, .debug, "cycle " ++ toString cycle ++ ": " ++ board.summary⟩

def ofHealth (name : String) (healthy : Bool) : Record :=
  if healthy then ⟨.fleet, .info, name ++ " is back UP"⟩
  else ⟨.fleet, .warning, name ++ " is DOWN"⟩

def ofStale (cycle : UInt64) : Record :=
  ⟨.fleet, .debug,
    "Discarding stale cycle " ++ toString cycle ++ " (a newer cycle already published)"⟩

end Log.Record
end FleetWatch
