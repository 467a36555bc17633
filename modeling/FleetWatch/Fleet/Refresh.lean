import FleetWatch.Fleet.Slot
import FleetWatch.Fleet.Summary

/-!
# Refresh cycles

The account of the cycles of a fleet.  Cycles are numbered as they begin, may overlap and end in any
order; each one ends by publishing its board or is abandoned.  A board that is accepted is compared
with the last accepted one, and every change of an endpoint's health is a transition; before the
first board every endpoint counts as up.

* `transitionsTo_eq`: a first board is compared with a fleet that is up.
* `publish_accepted`: an accepted board is held, and its health is what the next is compared with.
* `publish_refused`: a refused board changes nothing and has no transitions.
-/

namespace FleetWatch

structure Transition where
  position : Nat
  name : String
  healthy : Bool
deriving DecidableEq, Repr, Inhabited

def Transition.record (t : Transition) : Log.Record := Log.Record.ofHealth t.name t.healthy

/-- The changes of health, in the order of the endpoints, from position `i` on. -/
def transitionsFrom (i : Nat) : List Endpoint → List Bool → List Bool → List Transition
  | endpoint :: endpoints, was :: wases, now :: nows =>
    let rest := transitionsFrom (i + 1) endpoints wases nows
    if was = now then rest else ⟨i, endpoint.name, now⟩ :: rest
  | _, _, _ => []

def downsFrom (i : Nat) : List Endpoint → List Bool → List Transition
  | endpoint :: endpoints, now :: nows =>
    let rest := downsFrom (i + 1) endpoints nows
    if now then rest else ⟨i, endpoint.name, false⟩ :: rest
  | _, _ => []

theorem downsFrom_eq (i : Nat) (endpoints : List Endpoint) (nows : List Bool) :
    downsFrom i endpoints nows = transitionsFrom i endpoints (endpoints.map fun _ => true) nows := by
  induction endpoints generalizing i nows with
  | nil => rfl
  | cons endpoint endpoints ih =>
    cases nows with
    | nil => rfl
    | cons now nows => cases now <;> simp [downsFrom, transitionsFrom, ih]

structure Refresh where
  endpoints : List Endpoint
  slot : Slot := none
  nextCycle : UInt64 := 0
  inFlight : Nat := 0
  /-- Which endpoints were healthy in the last accepted board. -/
  lastHealth : Option (List Bool) := none
deriving DecidableEq, Inhabited

structure Publication where
  accepted : Bool
  transitions : List Transition
  records : List Log.Record
deriving DecidableEq, Repr, Inhabited

inductive RefreshState where
  | idle
  | refreshing
deriving DecidableEq, Repr

def RefreshState.name : RefreshState → String
  | idle => "Idle"
  | refreshing => "Refreshing"

namespace Refresh

def state (r : Refresh) : RefreshState := if r.inFlight = 0 then .idle else .refreshing

/-- What the next accepted board is compared with; before the first every endpoint counts as up. -/
def previousHealth (r : Refresh) : List Bool :=
  r.lastHealth.getD (r.endpoints.map fun _ => true)

def transitionsTo (r : Refresh) (health : List Bool) : List Transition :=
  match r.lastHealth with
  | some previous => transitionsFrom 0 r.endpoints previous health
  | none => downsFrom 0 r.endpoints health

theorem transitionsTo_eq (r : Refresh) (health : List Bool) :
    r.transitionsTo health = transitionsFrom 0 r.endpoints r.previousHealth health := by
  unfold transitionsTo previousHealth
  cases r.lastHealth with
  | some previous => rfl
  | none => exact downsFrom_eq 0 r.endpoints health

def begin (r : Refresh) : UInt64 × Refresh :=
  (r.nextCycle, { r with nextCycle := r.nextCycle + 1, inFlight := r.inFlight + 1 })

/-- Publishes the board of a cycle.  The summary is logged before the slot decides. -/
def publish (r : Refresh) (cycle : UInt64) (now : Instant) (board : Board) :
    Refresh × Publication :=
  let (slot, accepted) := r.slot.publish cycle now board
  let summary := Log.Record.ofBoard cycle board
  if accepted then
    let transitions := r.transitionsTo board.health
    ({ r with slot := slot, lastHealth := some board.health },
      ⟨true, transitions, summary :: transitions.map Transition.record⟩)
  else (r, ⟨false, [], [summary, Log.Record.ofStale cycle]⟩)

def abandon (r : Refresh) : Refresh := { r with inFlight := r.inFlight - 1 }

def finish (r : Refresh) (cycle : UInt64) (now : Instant) (outcomes : List Outcome) :
    Refresh × Publication :=
  let (r, publication) := r.publish cycle now (Board.aggregate r.endpoints outcomes)
  ({ r with inFlight := r.inFlight - 1 }, publication)

theorem publish_accepted {r : Refresh} {cycle : UInt64} (h : r.slot.accepts cycle = true)
    (now : Instant) (board : Board) :
    (r.publish cycle now board).1 =
        { r with slot := some ⟨cycle, now, board⟩, lastHealth := some board.health } ∧
      (r.publish cycle now board).2.transitions =
        transitionsFrom 0 r.endpoints r.previousHealth board.health := by
  simp [publish, Slot.publish_accepted h, transitionsTo_eq]

theorem publish_refused {r : Refresh} {cycle : UInt64} (h : r.slot.accepts cycle = false)
    (now : Instant) (board : Board) :
    (r.publish cycle now board).1 = r ∧ (r.publish cycle now board).2.transitions = [] := by
  simp [publish, Slot.publish_refused h]

theorem accepted_publish (r : Refresh) (cycle : UInt64) (now : Instant) (board : Board) :
    (r.publish cycle now board).2.accepted = r.slot.accepts cycle := by
  unfold publish Slot.publish
  cases r.slot.accepts cycle <;> simp

end Refresh
end FleetWatch
