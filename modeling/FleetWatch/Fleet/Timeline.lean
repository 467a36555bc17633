import FleetWatch.Fleet.Poll
import FleetWatch.Fleet.Refresh

/-!
# The timeline of a refresh loop

A refresh loop in time, counted in milliseconds.  A loop that runs begins a cycle at once and then
one with every period, whether or not earlier cycles have ended; cycles can also be begun by hand.
Time moves from one moment to the next at which a fetch ends or a cycle is due.  At a moment what
ends comes before what begins, the cycle that is waited for before all others, and those in the
order in which they began.

* `now_arrive`: what ends at a moment does not move the time.
* `lt_of_nextMoment?`: the next moment lies ahead.
-/

namespace FleetWatch

structure Flight where
  cycle : UInt64
  poll : Poll
deriving Inhabited

inductive LoopPhase where
  | unstarted
  | running (period next : Nat)
  | ended
deriving DecidableEq, Repr, Inhabited

structure Timeline where
  refresh : Refresh
  now : Nat := 0
  flights : List Flight := []
  loop : LoopPhase := .unstarted
  shutdownRequested : Bool := false
  /-- The cycles that have ended, and whether their boards were accepted. -/
  finished : List (UInt64 × Bool) := []
  fetched : List String := []
  log : List Log.Record := []
deriving Inhabited

abbrev FetchPlan := UInt64 → List (Endpoint × Fetch)

namespace Timeline

def ofEndpoints (endpoints : List Endpoint) : Timeline := { refresh := { endpoints := endpoints } }

def write (t : Timeline) (records : List Log.Record) : Timeline := { t with log := t.log ++ records }

def instant (t : Timeline) : Instant := ⟨t.now / 1000, t.now % 1000 * 1000000⟩

/-! ## One moment -/

def land (t : Timeline) (f : Flight) : Timeline :=
  let (refresh, publication) := t.refresh.finish f.cycle t.instant f.poll.outcomes
  { t with
    refresh := refresh
    finished := t.finished ++ [(f.cycle, publication.accepted)]
    log := t.log ++ publication.records }

def progress (t : Timeline) (f : Flight) : Timeline :=
  let t := t.write (f.poll.recordsAt t.now)
  if f.poll.endsAt = t.now then t.land f else { t with flights := t.flights ++ [f] }

def progressAll (t : Timeline) : Timeline := t.flights.foldl progress { t with flights := [] }

/-- A cycle begins: the flight of its poll, and the timeline in which it has yet to be put. -/
def begin (plan : FetchPlan) (t : Timeline) : Flight × Timeline :=
  let (cycle, refresh) := t.refresh.begin
  let poll : Poll := ⟨t.now, plan cycle⟩
  (⟨cycle, poll⟩,
    { t with refresh := refresh, fetched := t.fetched ++ poll.endpoints.map (·.name) })

def launch (plan : FetchPlan) (t : Timeline) : Timeline :=
  let (flight, t) := t.begin plan
  t.progress flight

/-- A cycle begins that is waited for; at every moment it comes before those that poll. -/
def launchFirst (plan : FetchPlan) (t : Timeline) : Timeline :=
  let (flight, t) := t.begin plan
  let first := progress { t with flights := [] } flight
  { first with flights := first.flights ++ t.flights }

def tick (plan : FetchPlan) (t : Timeline) : Timeline :=
  match t.loop with
  | .running period next =>
    if next = t.now then { t.launch plan with loop := .running period (next + period) } else t
  | _ => t

def arrive (plan : FetchPlan) (t : Timeline) (moment : Nat) : Timeline :=
  (progressAll { t with now := moment }).tick plan

/-! ## From moment to moment -/

def moments (t : Timeline) : List Nat :=
  t.flights.flatMap (·.poll.endings) ++
    match t.loop with
    | .running _ next => [next]
    | _ => []

def nextMoment? (t : Timeline) : Option Nat := (t.moments.filter (t.now < ·)).min?

theorem lt_of_nextMoment? {t : Timeline} {m : Nat} (h : t.nextMoment? = some m) : t.now < m := by
  have hm := List.min?_mem h
  simpa using (List.mem_filter.1 hm).2

theorem now_progress (t : Timeline) (f : Flight) : (t.progress f).now = t.now := by
  by_cases h : f.poll.endsAt = t.now <;> simp [progress, write, land, h]

theorem now_foldl_progress (flights : List Flight) (t : Timeline) :
    (flights.foldl progress t).now = t.now := by
  induction flights generalizing t with
  | nil => rfl
  | cons f flights ih => rw [List.foldl_cons, ih, now_progress]

theorem now_launch (plan : FetchPlan) (t : Timeline) : (t.launch plan).now = t.now := by
  simp [launch, begin, now_progress]

theorem now_tick (plan : FetchPlan) (t : Timeline) : (t.tick plan).now = t.now := by
  unfold tick
  split
  · split
    · exact now_launch plan t
    · rfl
  · rfl

theorem now_arrive (plan : FetchPlan) (t : Timeline) (moment : Nat) :
    (t.arrive plan moment).now = moment := by
  rw [arrive, now_tick, progressAll, now_foldl_progress]

def advance (plan : FetchPlan) (t : Timeline) (target : Nat) : Timeline :=
  match _h : t.nextMoment? with
  | some moment =>
    if moment ≤ target then advance plan (t.arrive plan moment) target
    else { t with now := max t.now target }
  | none => { t with now := max t.now target }
termination_by target - t.now
decreasing_by
  have := lt_of_nextMoment? _h
  rw [now_arrive]
  omega

/-! ## What can be asked of it -/

def runCycle (plan : FetchPlan) (t : Timeline) : Timeline :=
  (t.launchFirst plan).advance plan (t.begin plan).1.poll.endsAt

def result? (t : Timeline) (cycle : UInt64) : Option Bool :=
  (t.finished.find? (·.1 = cycle)).map (·.2)

def publish (t : Timeline) (cycle : UInt64) (board : Board) : Timeline × Bool :=
  let (slot, accepted) := t.refresh.slot.publish cycle t.instant board
  ({ t with refresh := { t.refresh with slot := slot } }, accepted)

def startRecord (t : Timeline) (period : Nat) : Log.Record :=
  ⟨.fleet, .info,
    "Starting refresh loop (" ++ toString t.refresh.endpoints.length ++ " endpoints, interval=" ++
      toString period ++ "ms)"⟩

def stopRecord : Log.Record := ⟨.fleet, .info, "Refresh loop shutting down"⟩

/-- Starts the loop; a shutdown that was requested before ends it at once. -/
def start (plan : FetchPlan) (period : Nat) (t : Timeline) : Timeline :=
  let t := t.write [t.startRecord period]
  if t.shutdownRequested then { t.write [stopRecord] with loop := .ended }
  else ({ t with loop := .running period t.now }).tick plan

/-- Requests the shutdown; cycles in flight go on. -/
def stop (t : Timeline) : Timeline :=
  let t := { t with shutdownRequested := true }
  match t.loop with
  | .running _ _ => { t.write [stopRecord] with loop := .ended }
  | _ => t

end Timeline
end FleetWatch
