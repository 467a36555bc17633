/-!
# Shutdown

One flag for every long-running task, and the tasks that wait for it.  A trigger stores the flag and
then notifies whoever has registered; a wait registers first and reads the flag then, so that a
trigger between the two is not missed.  The moves here are the atomic steps; tasks take them in any
order.

* `run_append`: a run is its first part, then the rest.
-/

namespace FleetWatch

inductive Waiter where
  | called
  | registered (notified : Bool)
  | parked (notified : Bool)
  | returned
deriving DecidableEq, Repr, Inhabited

inductive Trigger where
  | called
  | stored
  | completed
deriving DecidableEq, Repr, Inhabited

structure Shutdown where
  requested : Bool := false
  waiters : List Waiter := []
  triggers : List Trigger := []
deriving DecidableEq, Repr, Inhabited

namespace Waiter

def register : Waiter → Waiter
  | called => registered false
  | w => w

def check (requested : Bool) : Waiter → Waiter
  | registered notified => if requested then returned else parked notified
  | w => w

def notify : Waiter → Waiter
  | registered _ => registered true
  | parked _ => parked true
  | w => w

def wake : Waiter → Waiter
  | parked true => returned
  | w => w

def isDone (w : Waiter) : Bool := w = returned

end Waiter

namespace Shutdown

/-- An atomic step; the numbers count waits and triggers in the order of their calls. -/
inductive Move where
  | callWait
  | register (waiter : Nat)
  | check (waiter : Nat)
  | wake (waiter : Nat)
  | callTrigger
  | store (trigger : Nat)
  | notify (trigger : Nat)
deriving DecidableEq, Repr

/-- What a move does; one whose turn it is not does nothing. -/
def move (s : Shutdown) : Move → Shutdown
  | .callWait => { s with waiters := s.waiters ++ [.called] }
  | .register i => { s with waiters := s.waiters.modify i Waiter.register }
  | .check i => { s with waiters := s.waiters.modify i (Waiter.check s.requested) }
  | .wake i => { s with waiters := s.waiters.modify i Waiter.wake }
  | .callTrigger => { s with triggers := s.triggers ++ [.called] }
  | .store i =>
    match s.triggers[i]? with
    | some .called => { s with requested := true, triggers := s.triggers.set i .stored }
    | _ => s
  | .notify i =>
    match s.triggers[i]? with
    | some .stored =>
      { s with waiters := s.waiters.map Waiter.notify, triggers := s.triggers.set i .completed }
    | _ => s

def run (s : Shutdown) (moves : List Move) : Shutdown := moves.foldl move s

theorem run_append (s : Shutdown) (a b : List Move) : s.run (a ++ b) = (s.run a).run b := by
  simp [run]

def wakeAll (s : Shutdown) : Shutdown :=
  s.run ((List.range s.waiters.length).map .wake)

def wait (s : Shutdown) : Shutdown :=
  let i := s.waiters.length
  s.run [.callWait, .register i, .check i, .wake i]

def trigger (s : Shutdown) : Shutdown :=
  let i := s.triggers.length
  (s.run [.callTrigger, .store i, .notify i]).wakeAll

def done (s : Shutdown) : List Bool := s.waiters.map Waiter.isDone

end Shutdown
end FleetWatch
