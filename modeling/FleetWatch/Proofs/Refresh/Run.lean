import FleetWatch.Fleet.Timeline
import Mathlib.Logic.Relation

/-!
# Runs of a refresh loop

The loop together with the history of its cycles.  At any moment a cycle may begin, or one of those
that poll may land (it publishes its board) or be abandoned; nothing else decides which.  The moment
of a landing is any moment, since wall clocks may be set.

* `refresh_land`, `accepted_landing`, `transitions_landing`: all that a landing does.
* `Reachable.consistent`: the counter, the numbers of the cycles and the history agree.
-/

namespace FleetWatch

structure Landing where
  flight : Flight
  publication : Publication

namespace Landing

def cycle (l : Landing) : UInt64 := l.flight.cycle

def accepted (l : Landing) : Bool := l.publication.accepted

def board (endpoints : List Endpoint) (l : Landing) : Board :=
  Board.aggregate endpoints l.flight.poll.outcomes

end Landing

/-- A loop, all cycles that have begun, those that poll, and those that landed, each in order. -/
structure RefreshRun where
  refresh : Refresh
  begun : List Flight := []
  flights : List Flight := []
  landings : List Landing := []

namespace RefreshRun

def fresh (endpoints : List Endpoint) : RefreshRun := { refresh := { endpoints := endpoints } }

def begin (s : RefreshRun) (poll : Poll) : RefreshRun :=
  let flight : Flight := ⟨s.refresh.begin.1, poll⟩
  { s with
    refresh := s.refresh.begin.2
    begun := s.begun ++ [flight]
    flights := s.flights ++ [flight] }

def landing (s : RefreshRun) (f : Flight) (now : Instant) : Landing :=
  ⟨f, (s.refresh.finish f.cycle now f.poll.outcomes).2⟩

def land (s : RefreshRun) (place : Nat) (f : Flight) (now : Instant) : RefreshRun :=
  { s with
    refresh := (s.refresh.finish f.cycle now f.poll.outcomes).1
    flights := s.flights.eraseIdx place
    landings := s.landings ++ [s.landing f now] }

def abandon (s : RefreshRun) (place : Nat) : RefreshRun :=
  { s with refresh := s.refresh.abandon, flights := s.flights.eraseIdx place }

inductive Step : RefreshRun → RefreshRun → Prop
  | begin {s : RefreshRun} {poll : Poll} (aligned : poll.endpoints = s.refresh.endpoints) :
      Step s (s.begin poll)
  | land {s : RefreshRun} {place : Nat} {f : Flight} (aloft : s.flights[place]? = some f)
      (now : Instant) : Step s (s.land place f now)
  | abandon {s : RefreshRun} {place : Nat} {f : Flight} (aloft : s.flights[place]? = some f) :
      Step s (s.abandon place)

abbrev Steps : RefreshRun → RefreshRun → Prop := Relation.ReflTransGen Step

def Reachable (endpoints : List Endpoint) (s : RefreshRun) : Prop := Steps (fresh endpoints) s

/-! ## One landing -/

theorem refresh_land (s : RefreshRun) (place : Nat) (f : Flight) (now : Instant) :
    (s.land place f now).refresh =
      if s.refresh.slot.accepts f.cycle then
        { s.refresh with
          slot := some ⟨f.cycle, now, (s.landing f now).board s.refresh.endpoints⟩
          lastHealth := some ((s.landing f now).board s.refresh.endpoints).health
          inFlight := s.refresh.inFlight - 1 }
      else { s.refresh with inFlight := s.refresh.inFlight - 1 } := by
  unfold land Refresh.finish
  cases accepts : s.refresh.slot.accepts f.cycle with
  | true => simp [Refresh.publish_accepted accepts, landing, Landing.board]
  | false => simp [Refresh.publish_refused accepts]

theorem accepted_landing (s : RefreshRun) (f : Flight) (now : Instant) :
    (s.landing f now).accepted = s.refresh.slot.accepts f.cycle := Refresh.accepted_publish ..

theorem transitions_landing (s : RefreshRun) (f : Flight) (now : Instant) :
    (s.landing f now).publication.transitions =
      if s.refresh.slot.accepts f.cycle then
        transitionsFrom 0 s.refresh.endpoints s.refresh.previousHealth
          ((s.landing f now).board s.refresh.endpoints).health
      else [] := by
  unfold landing Refresh.finish
  cases accepts : s.refresh.slot.accepts f.cycle with
  | true => simp [Refresh.publish_accepted accepts, Landing.board]
  | false => simp [Refresh.publish_refused accepts]

/-! ## Landings and those before them -/

def AtEachLanding (P : List Landing → Landing → Prop) (landings : List Landing) : Prop :=
  ∀ before l after, landings = before ++ l :: after → P before l

theorem AtEachLanding.concat {P : List Landing → Landing → Prop} {landings : List Landing}
    (each : AtEachLanding P landings) {l : Landing} (last : P landings l) :
    AtEachLanding P (landings ++ [l]) := by
  intro before m after split
  rcases List.eq_nil_or_concat after with rfl | ⟨after', m', rfl⟩
  · obtain ⟨rfl, same⟩ := List.append_inj' split rfl
    cases same
    exact last
  · have split' : landings ++ [l] = (before ++ m :: after') ++ [m'] := by simpa using split
    exact each before m after' (List.append_inj' split' rfl).1

/-! ## The account of the cycles -/

/-- Counter, numbers and history agree; every cycle polls the endpoints of the loop. -/
structure Consistent (endpoints : List Endpoint) (s : RefreshRun) : Prop where
  registry : s.refresh.endpoints = endpoints
  counter : s.refresh.nextCycle = UInt64.ofNat s.begun.length
  numbered : ∀ k f, s.begun[k]? = some f → f.cycle = UInt64.ofNat k
  aligned : ∀ f ∈ s.begun, f.poll.endpoints = endpoints
  aloft : ∀ f ∈ s.flights, f ∈ s.begun
  landed : ∀ l ∈ s.landings, l.flight ∈ s.begun

theorem consistent_fresh (endpoints : List Endpoint) : Consistent endpoints (fresh endpoints) where
  registry := rfl
  counter := rfl
  numbered := by simp [fresh]
  aligned := by simp [fresh]
  aloft := by simp [fresh]
  landed := by simp [fresh]

theorem Consistent.begin {endpoints : List Endpoint} {s : RefreshRun} (c : Consistent endpoints s)
    {poll : Poll} (aligned : poll.endpoints = s.refresh.endpoints) :
    Consistent endpoints (s.begin poll) where
  registry := c.registry
  counter := by
    simp only [RefreshRun.begin, Refresh.begin, c.counter, List.length_append, List.length_singleton]
    rw [UInt64.ofNat_add]
    rfl
  numbered := by
    intro k f found
    simp only [RefreshRun.begin] at found
    rcases Nat.lt_trichotomy k s.begun.length with before | rfl | after
    · rw [List.getElem?_append_left before] at found
      exact c.numbered k f found
    · rw [List.getElem?_concat_length, Option.some.injEq] at found
      rw [← found]
      exact c.counter
    · rw [List.getElem?_eq_none (by simp; omega)] at found
      cases found
  aligned := by
    intro f member
    rcases List.mem_append.1 member with old | new
    · exact c.aligned f old
    · rw [List.mem_singleton.1 new, ← c.registry]
      exact aligned
  aloft := by
    intro f member
    rcases List.mem_append.1 member with old | new
    · exact List.mem_append_left _ (c.aloft f old)
    · exact List.mem_append_right _ new
  landed := fun l member => List.mem_append_left _ (c.landed l member)

theorem Consistent.land {endpoints : List Endpoint} {s : RefreshRun} (c : Consistent endpoints s)
    {place : Nat} {f : Flight} (aloft : s.flights[place]? = some f) (now : Instant) :
    Consistent endpoints (s.land place f now) where
  registry := by
    rw [refresh_land]
    split <;> exact c.registry
  counter := by
    rw [refresh_land]
    split <;> exact c.counter
  numbered := c.numbered
  aligned := c.aligned
  aloft := fun g member => c.aloft g (List.mem_of_mem_eraseIdx member)
  landed := by
    intro l member
    rcases List.mem_append.1 member with old | new
    · exact c.landed l old
    · rw [List.mem_singleton.1 new]
      exact c.aloft f (List.mem_of_getElem? aloft)

theorem Consistent.abandon {endpoints : List Endpoint} {s : RefreshRun}
    (c : Consistent endpoints s) (place : Nat) : Consistent endpoints (s.abandon place) where
  registry := c.registry
  counter := c.counter
  numbered := c.numbered
  aligned := c.aligned
  aloft := fun g member => c.aloft g (List.mem_of_mem_eraseIdx member)
  landed := c.landed

theorem Consistent.step {endpoints : List Endpoint} {s s' : RefreshRun}
    (c : Consistent endpoints s) (step : Step s s') : Consistent endpoints s' := by
  cases step with
  | begin aligned => exact c.begin aligned
  | land aloft now => exact c.land aloft now
  | abandon aloft => exact c.abandon _

theorem Reachable.consistent {endpoints : List Endpoint} {s : RefreshRun}
    (reachable : Reachable endpoints s) : Consistent endpoints s := by
  induction reachable with
  | refl => exact consistent_fresh endpoints
  | tail _ step ih => exact ih.step step

end RefreshRun
end FleetWatch
