import FleetWatch.Fleet.Board
import FleetWatch.Fleet.Failure
import FleetWatch.Log.Record

/-!
# Polls

A poll fetches from every endpoint at once.  Each fetch ends on its own, well or badly; the poll is
over with the slowest, and its outcomes stand in the order of the endpoints, not of the endings.
-/

namespace FleetWatch

structure Fetch where
  result : Except FetchError Report
  delay : Nat := 0
  notes : List Log.Record := []
deriving Inhabited

namespace Fetch

def outcome (f : Fetch) : Outcome := f.result.toOption

def record (name : String) (f : Fetch) : Log.Record :=
  ⟨.poller, .debug,
    match f.result with
    | .ok report =>
      name ++ " ok (uptime=" ++ countNote report.uptime ++ ", probes=" ++
        toString report.probes.length ++ ")"
    | .error e => name ++ " failed [" ++ e.kind ++ "]: " ++ e.message⟩

end Fetch

structure Poll where
  startedAt : Nat := 0
  fetches : List (Endpoint × Fetch)
deriving Inhabited

namespace Poll

def endpoints (p : Poll) : List Endpoint := p.fetches.map (·.1)

def outcomes (p : Poll) : List Outcome := p.fetches.map (·.2.outcome)

def endings (p : Poll) : List Nat := p.fetches.map (p.startedAt + ·.2.delay)

def duration (p : Poll) : Nat := (p.fetches.map (·.2.delay)).foldl max 0

def endsAt (p : Poll) : Nat := p.startedAt + p.duration

def fetchRecordsAt (p : Poll) (moment : Nat) (endpoint : Endpoint) (f : Fetch) : List Log.Record :=
  (if moment = p.startedAt then f.notes else []) ++
    (if moment = p.startedAt + f.delay then [f.record endpoint.name] else [])

def recordsAt (p : Poll) (moment : Nat) : List Log.Record :=
  p.fetches.flatMap fun (endpoint, f) => p.fetchRecordsAt moment endpoint f

def moments (p : Poll) : List Nat := ((p.startedAt :: p.endings).mergeSort).eraseReps

def records (p : Poll) : List Log.Record := p.moments.flatMap p.recordsAt

end Poll
end FleetWatch
