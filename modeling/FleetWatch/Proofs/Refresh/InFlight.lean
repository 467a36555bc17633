import FleetWatch.Proofs.Poll.Join
import FleetWatch.Proofs.Refresh.Transitions

/-!
# The count of running cycles

A cycle goes through atomic moves: it takes its number, enters the count, joins its fetches,
publishes and leaves the count.  While it joins it can be cancelled at any state of the join, and it
leaves the count then as well.  Cycles take their moves in any order.

* `begin_eq`, `finish_eq`: a cycle that begins or finishes in one go takes these moves.
* `Step.numbers_or_moves`: all that a move does.
* `Reachable.balanced`: the count is that of the cycles that are in it.
* `Step.shown_of_cancelled`: a cycle that ends cancelled has changed nothing that is shown.
* `exists_mirror`: runs of whole cycles are runs of their moves.
* `in_flight_balanced`: count, state and cancelled cycles in every reachable state.
-/

namespace FleetWatch

/-! ## Atomic moves of the loop -/

namespace Refresh

def number (r : Refresh) : UInt64 × Refresh :=
  (r.nextCycle, { r with nextCycle := r.nextCycle + 1 })

def enter (r : Refresh) : Refresh := { r with inFlight := r.inFlight + 1 }

def leave (r : Refresh) : Refresh := { r with inFlight := r.inFlight - 1 }

theorem begin_eq (r : Refresh) : r.begin = (r.number.1, r.number.2.enter) := rfl

theorem finish_eq (r : Refresh) (cycle : UInt64) (now : Instant) (outcomes : List Outcome) :
    r.finish cycle now outcomes =
      ((r.publish cycle now (Board.aggregate r.endpoints outcomes)).1.leave,
        (r.publish cycle now (Board.aggregate r.endpoints outcomes)).2) := rfl

theorem publish_cases (r : Refresh) (cycle : UInt64) (now : Instant) (board : Board) :
    (r.publish cycle now board).1.endpoints = r.endpoints ∧
      (r.publish cycle now board).1.nextCycle = r.nextCycle ∧
      (r.publish cycle now board).1.inFlight = r.inFlight := by
  cases accepts : r.slot.accepts cycle with
  | true => simp [publish_accepted accepts]
  | false => simp [publish_refused accepts]

end Refresh

inductive Stage where
  | numbered
  | joining (join : Join)
  | published
  | finished
  | cancelled

structure Cycle where
  number : UInt64
  poll : Poll
  stage : Stage

namespace Stage

/-- The cycle has entered the count and has not left it. -/
def isCounted : Stage → Bool
  | joining _ | published => true
  | numbered | finished | cancelled => false

def HasPublished (stage : Stage) : Prop := stage = published ∨ stage = finished

end Stage

/-- A loop, all cycles in the order of their numbers, and the transitions logged so far. -/
structure AtomicRun where
  refresh : Refresh
  cycles : List Cycle := []
  transitions : List Transition := []

namespace AtomicRun

def fresh (endpoints : List Endpoint) : AtomicRun := { refresh := { endpoints := endpoints } }

def put (s : AtomicRun) (i : Nat) (c : Cycle) (refresh : Refresh) : AtomicRun :=
  { s with refresh := refresh, cycles := s.cycles.set i c }

def publication (s : AtomicRun) (c : Cycle) (now : Instant) (outcomes : List Outcome) :
    Refresh × Publication :=
  s.refresh.publish c.number now (Board.aggregate s.refresh.endpoints outcomes)

/-- A move of the cycle at position `i`. -/
inductive Step (i : Nat) : AtomicRun → AtomicRun → Prop
  | number {s : AtomicRun} {poll : Poll} (next : i = s.cycles.length)
      (aligned : poll.endpoints = s.refresh.endpoints) :
      Step i s { s with
        refresh := s.refresh.number.2
        cycles := s.cycles ++ [⟨s.refresh.number.1, poll, .numbered⟩] }
  | enter {s : AtomicRun} {c : Cycle} (found : s.cycles[i]? = some c) (stage : c.stage = .numbered) :
      Step i s (s.put i { c with stage := .joining (.begin c.poll) } s.refresh.enter)
  | join {s : AtomicRun} {c : Cycle} {j j' : Join} (found : s.cycles[i]? = some c)
      (stage : c.stage = .joining j) (step : Join.Step c.poll j j') :
      Step i s (s.put i { c with stage := .joining j' } s.refresh)
  | publish {s : AtomicRun} {c : Cycle} {j : Join} {outcomes : List Outcome}
      (found : s.cycles[i]? = some c) (stage : c.stage = .joining j)
      (joined : j.result? c.poll = some outcomes) (now : Instant) :
      Step i s { s.put i { c with stage := .published } (s.publication c now outcomes).1 with
        transitions := s.transitions ++ (s.publication c now outcomes).2.transitions }
  | leave {s : AtomicRun} {c : Cycle} (found : s.cycles[i]? = some c)
      (stage : c.stage = .published) :
      Step i s (s.put i { c with stage := .finished } s.refresh.leave)
  | cancel {s : AtomicRun} {c : Cycle} {j : Join} (found : s.cycles[i]? = some c)
      (stage : c.stage = .joining j) :
      Step i s (s.put i { c with stage := .cancelled } s.refresh.leave)

abbrev Steps : AtomicRun → AtomicRun → Prop := Relation.ReflTransGen fun s s' => ∃ i, Step i s s'

def Reachable (endpoints : List Endpoint) (s : AtomicRun) : Prop := Steps (fresh endpoints) s

/-- What a cycle may change for readers and for the next cycle. -/
def shown (s : AtomicRun) : Slot × Option (List Bool) × List Transition :=
  (s.refresh.slot, s.refresh.lastHealth, s.transitions)

/-! ## One move -/

/-- The stages that a cycle goes through. -/
inductive Next (p : Poll) : Stage → Stage → Prop
  | enter : Next p .numbered (.joining (.begin p))
  | join {j j' : Join} (step : Join.Step p j j') : Next p (.joining j) (.joining j')
  | publish {j : Join} : Next p (.joining j) .published
  | leave : Next p .published .finished
  | cancel {j : Join} : Next p (.joining j) .cancelled

/-- The cycle `c` at position `i` goes to `stage`. -/
structure Moves (i : Nat) (s s' : AtomicRun) (c : Cycle) (stage : Stage) : Prop where
  found : s.cycles[i]? = some c
  next : Next c.poll c.stage stage
  cycles : s'.cycles = s.cycles.set i { c with stage := stage }
  registry : s'.refresh.endpoints = s.refresh.endpoints
  counter : s'.refresh.nextCycle = s.refresh.nextCycle
  count : s'.refresh.inFlight =
    s.refresh.inFlight + (if stage.isCounted && !c.stage.isCounted then 1 else 0) -
      (if c.stage.isCounted && !stage.isCounted then 1 else 0)
  shown : stage ≠ .published → s'.shown = s.shown

theorem Step.numbers_or_moves {i : Nat} {s s' : AtomicRun} (step : Step i s s') :
    (i = s.cycles.length ∧ s'.shown = s.shown ∧ s'.refresh = s.refresh.number.2 ∧
      ∃ poll, s'.cycles = s.cycles ++ [⟨s.refresh.number.1, poll, .numbered⟩]) ∨
    ∃ c stage, Moves i s s' c stage := by
  cases step with
  | @number poll next aligned => exact .inl ⟨next, rfl, rfl, poll, rfl⟩
  | @enter c found stage =>
    refine .inr ⟨c, _, found, stage ▸ .enter, rfl, rfl, rfl, ?_, fun _ => rfl⟩
    simp [put, Refresh.enter, stage, Stage.isCounted]
  | @join c j j' found stage step =>
    refine .inr ⟨c, _, found, stage ▸ .join step, rfl, rfl, rfl, ?_, fun _ => rfl⟩
    simp [put, stage, Stage.isCounted]
  | @publish c j outcomes found stage joined now =>
    obtain ⟨registry, counter, count⟩ := s.refresh.publish_cases c.number now
      (Board.aggregate s.refresh.endpoints outcomes)
    refine .inr ⟨c, _, found, stage ▸ .publish, rfl, registry, counter, ?_, fun other => absurd rfl other⟩
    simpa [put, publication, stage, Stage.isCounted] using count
  | @leave c found stage =>
    refine .inr ⟨c, _, found, stage ▸ .leave, rfl, rfl, rfl, ?_, fun _ => rfl⟩
    simp [put, Refresh.leave, stage, Stage.isCounted]
  | @cancel c j found stage =>
    refine .inr ⟨c, _, found, stage ▸ .cancel, rfl, rfl, rfl, ?_, fun _ => rfl⟩
    simp [put, Refresh.leave, stage, Stage.isCounted]

theorem Step.stays {i : Nat} {s s' : AtomicRun} (step : Step i s s') {k : Nat} {c : Cycle}
    (found : s.cycles[k]? = some c) :
    s'.cycles[k]? = some c ∨
      k = i ∧ ∃ stage, Next c.poll c.stage stage ∧ s'.cycles[k]? = some { c with stage := stage } := by
  have bound := (List.getElem?_eq_some_iff.1 found).1
  rcases step.numbers_or_moves with ⟨-, -, -, poll, cycles⟩ | ⟨d, stage, moves⟩
  · rw [cycles, List.getElem?_append_left bound]
    exact .inl found
  · rw [moves.cycles]
    by_cases own : k = i
    · subst own
      cases found.symm.trans moves.found
      exact .inr ⟨rfl, stage, moves.next, List.getElem?_set_self bound⟩
    · rw [List.getElem?_set_ne (Ne.symm own)]
      exact .inl found

/-! ## The count -/

structure Balanced (endpoints : List Endpoint) (s : AtomicRun) : Prop where
  registry : s.refresh.endpoints = endpoints
  counter : s.refresh.nextCycle = UInt64.ofNat s.cycles.length
  numbers : ∀ (i : Nat) (c : Cycle), s.cycles[i]? = some c → c.number = UInt64.ofNat i
  count : s.refresh.inFlight = s.cycles.countP (·.stage.isCounted)

theorem Balanced.pos {endpoints : List Endpoint} {s : AtomicRun} (b : Balanced endpoints s)
    {i : Nat} {c : Cycle} (found : s.cycles[i]? = some c) (counted : c.stage.isCounted = true) :
    1 ≤ s.refresh.inFlight := by
  rw [b.count]
  exact List.countP_pos_iff.2 ⟨c, List.mem_of_getElem? found, counted⟩

theorem Balanced.number {endpoints : List Endpoint} {s s' : AtomicRun} (b : Balanced endpoints s)
    {poll : Poll} (refresh : s'.refresh = s.refresh.number.2)
    (cycles : s'.cycles = s.cycles ++ [⟨s.refresh.number.1, poll, .numbered⟩]) :
    Balanced endpoints s' where
  registry := by rw [refresh]; exact b.registry
  counter := by
    simp only [refresh, cycles, Refresh.number, b.counter, List.length_append, List.length_singleton]
    rw [UInt64.ofNat_add]
    rfl
  numbers := by
    intro k c found
    rw [cycles] at found
    rcases Nat.lt_trichotomy k s.cycles.length with before | rfl | after
    · rw [List.getElem?_append_left before] at found
      exact b.numbers k c found
    · rw [List.getElem?_concat_length, Option.some.injEq] at found
      rw [← found]
      exact b.counter
    · rw [List.getElem?_eq_none (by simp; omega)] at found
      cases found
  count := by
    rw [refresh, cycles, List.countP_append]
    exact b.count

theorem Balanced.moves {endpoints : List Endpoint} {s s' : AtomicRun} (b : Balanced endpoints s)
    {i : Nat} {c : Cycle} {stage : Stage} (m : Moves i s s' c stage) : Balanced endpoints s' where
  registry := m.registry.trans b.registry
  counter := by rw [m.counter, m.cycles, List.length_set]; exact b.counter
  numbers := by
    intro k d found
    rw [m.cycles] at found
    by_cases own : k = i
    · subst own
      rw [List.getElem?_set_self (List.getElem?_eq_some_iff.1 m.found).1] at found
      cases found
      exact b.numbers k c m.found
    · rw [List.getElem?_set_ne (Ne.symm own)] at found
      exact b.numbers k d found
  count := by
    obtain ⟨bound, place⟩ := List.getElem?_eq_some_iff.1 m.found
    have counted := b.pos m.found
    have count := b.count
    rw [m.count, m.cycles, List.countP_set bound, place]
    cases was : c.stage.isCounted <;> cases now : stage.isCounted <;> simp_all

theorem Reachable.balanced {endpoints : List Endpoint} {s : AtomicRun}
    (reachable : Reachable endpoints s) : Balanced endpoints s := by
  induction reachable with
  | refl => exact ⟨rfl, rfl, by simp [fresh], rfl⟩
  | tail _ step ih =>
    obtain ⟨i, step⟩ := step
    rcases step.numbers_or_moves with ⟨-, -, refresh, poll, cycles⟩ | ⟨c, stage, moves⟩
    · exact ih.number refresh cycles
    · exact ih.moves moves

theorem Balanced.idle_iff {endpoints : List Endpoint} {s : AtomicRun} (b : Balanced endpoints s) :
    s.refresh.state = .idle ↔ ∀ c ∈ s.cycles, c.stage.isCounted = false := by
  have none : s.refresh.inFlight = 0 ↔ ∀ c ∈ s.cycles, c.stage.isCounted = false := by
    rw [b.count, List.countP_eq_zero]
    simp
  rw [← none, Refresh.state]
  split <;> simp_all

/-- A cycle that leaves finds itself in the count. -/
theorem Balanced.leaves {endpoints : List Endpoint} {s s' : AtomicRun} (b : Balanced endpoints s)
    {i : Nat} (step : Step i s s') {c c' : Cycle} (before : s.cycles[i]? = some c)
    (after : s'.cycles[i]? = some c') (counted : c.stage.isCounted = true)
    (left : c'.stage.isCounted = false) :
    1 ≤ s.refresh.inFlight ∧ s'.refresh.inFlight + 1 = s.refresh.inFlight := by
  have pos := b.pos before counted
  obtain ⟨bound, -⟩ := List.getElem?_eq_some_iff.1 before
  rcases step.numbers_or_moves with ⟨next, -⟩ | ⟨d, stage, moves⟩
  · exact absurd bound (by omega)
  · cases before.symm.trans moves.found
    rw [moves.cycles, List.getElem?_set_self bound] at after
    cases after
    refine ⟨pos, ?_⟩
    rw [moves.count, counted, show stage.isCounted = false from left]
    simp only [Bool.not_true, Bool.not_false, Bool.and_false, Bool.and_true, Bool.false_eq_true,
      if_true, if_false]
    omega

/-- Whoever moves, the loop does not look idle while another cycle joins. -/
theorem Balanced.refreshing {endpoints : List Endpoint} {s s' : AtomicRun}
    (b : Balanced endpoints s') {i k : Nat} (step : Step i s s') (other : k ≠ i) {c : Cycle} {j : Join}
    (found : s.cycles[k]? = some c) (joins : c.stage = .joining j) :
    s'.refresh.state = .refreshing := by
  rcases step.stays found with same | ⟨own, -⟩
  · have pos := b.pos same (by rw [joins]; rfl)
    rw [Refresh.state, if_neg (by omega)]
  · exact absurd own other

/-! ## Cycles that are cancelled -/

theorem Step.cancelled {i : Nat} {s s' : AtomicRun} (step : Step i s s') {k : Nat} {c : Cycle}
    (found : s.cycles[k]? = some c) (cancelled : c.stage = .cancelled) :
    s'.cycles[k]? = some c := by
  rcases step.stays found with same | ⟨-, stage, next, -⟩
  · exact same
  · rw [cancelled] at next
    cases next

theorem Steps.cancelled {s s' : AtomicRun} (steps : Steps s s') {k : Nat} {c : Cycle}
    (found : s.cycles[k]? = some c) (cancelled : c.stage = .cancelled) :
    s'.cycles[k]? = some c := by
  induction steps with
  | refl => exact found
  | tail _ step ih =>
    obtain ⟨i, step⟩ := step
    exact step.cancelled ih cancelled

theorem Step.hasPublished {i : Nat} {s s' : AtomicRun} (step : Step i s s') {k : Nat} {c : Cycle}
    (found : s.cycles[k]? = some c) (published : c.stage.HasPublished) :
    ∃ c', s'.cycles[k]? = some c' ∧ c'.stage.HasPublished := by
  rcases step.stays found with same | ⟨-, stage, next, same⟩
  · exact ⟨c, same, published⟩
  · refine ⟨_, same, ?_⟩
    rcases published with now | ended
    · rw [now] at next
      cases next
      exact .inr rfl
    · rw [ended] at next
      cases next

theorem Steps.hasPublished {s s' : AtomicRun} (steps : Steps s s') {k : Nat} {c : Cycle}
    (found : s.cycles[k]? = some c) (published : c.stage.HasPublished) :
    ∃ c', s'.cycles[k]? = some c' ∧ c'.stage.HasPublished := by
  induction steps with
  | refl => exact ⟨c, found, published⟩
  | tail _ step ih =>
    obtain ⟨i, step⟩ := step
    obtain ⟨c', found', published'⟩ := ih
    exact step.hasPublished found' published'

/-- A cycle that ends cancelled has changed nothing that is shown, with none of its moves. -/
theorem Step.shown_of_cancelled {i : Nat} {s t s' : AtomicRun} (step : Step i s t)
    (steps : Steps t s') {c : Cycle} (found : s'.cycles[i]? = some c)
    (cancelled : c.stage = .cancelled) : t.shown = s.shown := by
  rcases step.numbers_or_moves with ⟨-, shown, -⟩ | ⟨d, stage, moves⟩
  · exact shown
  · refine moves.shown fun publishes => ?_
    have bound := (List.getElem?_eq_some_iff.1 moves.found).1
    have after : t.cycles[i]? = some { d with stage := stage } := by
      rw [moves.cycles, List.getElem?_set_self bound]
    obtain ⟨c', found', published⟩ := Steps.hasPublished steps after (.inl publishes)
    cases found.symm.trans found'
    rcases published with now | ended
    · rw [cancelled] at now
      cases now
    · rw [cancelled] at ended
      cases ended

theorem Balanced.number_apart {endpoints : List Endpoint} {s : AtomicRun}
    (b : Balanced endpoints s) {i k : Nat} {c d : Cycle} (first : s.cycles[i]? = some c)
    (second : s.cycles[k]? = some d) (same : d.number = c.number) (other : k ≠ i) :
    i + UInt64.size ≤ k ∨ k + UInt64.size ≤ i := by
  rw [b.numbers i c first, b.numbers k d second] at same
  have mod := congrArg UInt64.toNat same
  simp only [UInt64.toNat_ofNat'] at mod
  have size : UInt64.size = 2 ^ 64 := rfl
  omega

/-! ## Cycles that begin and end in one go -/

def flight? (c : Cycle) : Option Flight :=
  match c.stage with
  | .joining _ => some ⟨c.number, c.poll⟩
  | _ => none

/-- Two views of one loop: the cycles that join are the flights. -/
structure Mirrors (s : AtomicRun) (r : RefreshRun) : Prop where
  refresh : s.refresh = r.refresh
  transitions : s.transitions = r.transitions
  flights : s.cycles.filterMap flight? = r.flights
  joins : ∀ c ∈ s.cycles, ∀ j, c.stage = .joining j → Join.Reachable c.poll j

theorem flight?_eq_some {c : Cycle} {f : Flight} :
    flight? c = some f ↔ (∃ j, c.stage = .joining j) ∧ f = ⟨c.number, c.poll⟩ := by
  unfold flight?
  split
  next j stage => simp [stage, eq_comm]
  next other => simpa using fun j stage => absurd stage (other j)

theorem exists_of_filterMap_getElem? {α β : Type} {f : α → Option β} {l : List α} {place : Nat}
    {b : β} (found : (l.filterMap f)[place]? = some b) :
    ∃ i a, l[i]? = some a ∧ f a = some b ∧
      ∀ a', f a' = none → (l.set i a').filterMap f = (l.filterMap f).eraseIdx place := by
  induction l generalizing place with
  | nil => simp at found
  | cons x l ih =>
    cases fx : f x with
    | none =>
      rw [List.filterMap_cons_none fx] at found ⊢
      obtain ⟨i, a, at', fa, erase⟩ := ih found
      refine ⟨i + 1, a, at', fa, fun a' fa' => ?_⟩
      rw [List.set_cons_succ, List.filterMap_cons_none fx, erase a' fa']
    | some y =>
      rw [List.filterMap_cons_some fx] at found ⊢
      cases place with
      | zero =>
        cases found
        refine ⟨0, x, rfl, fx, fun a' fa' => ?_⟩
        rw [List.set_cons_zero, List.filterMap_cons_none fa', List.eraseIdx_cons_zero]
      | succ place =>
        obtain ⟨i, a, at', fa, erase⟩ := ih found
        refine ⟨i + 1, a, at', fa, fun a' fa' => ?_⟩
        rw [List.set_cons_succ, List.filterMap_cons_some fx, erase a' fa', List.eraseIdx_cons_succ]

theorem steps_begin (s : AtomicRun) {poll : Poll} (aligned : poll.endpoints = s.refresh.endpoints) :
    Steps s { s with
      refresh := s.refresh.begin.2
      cycles := s.cycles ++ [⟨s.refresh.begin.1, poll, .joining (.begin poll)⟩] } := by
  let numbered : AtomicRun := { s with
    refresh := s.refresh.number.2
    cycles := s.cycles ++ [⟨s.refresh.number.1, poll, .numbered⟩] }
  have number : Steps s numbered := .single ⟨_, .number rfl aligned⟩
  have last : numbered.cycles[s.cycles.length]? = some ⟨s.refresh.number.1, poll, .numbered⟩ := by
    simp [numbered]
  refine number.tail ⟨s.cycles.length, ?_⟩
  simpa [put, numbered, Refresh.begin_eq] using Step.enter last rfl

theorem steps_join {s : AtomicRun} {i : Nat} {c : Cycle} {j j' : Join}
    (found : s.cycles[i]? = some c) (stage : c.stage = .joining j) (steps : Join.Steps c.poll j j') :
    Steps s (s.put i { c with stage := .joining j' } s.refresh) := by
  obtain ⟨bound, place⟩ := List.getElem?_eq_some_iff.1 found
  induction steps with
  | refl =>
    have same : s.put i { c with stage := .joining j } s.refresh = s := by
      rw [put, ← stage, ← place, List.set_getElem_self]
    rw [same]
  | @tail j₁ j₂ _ step ih =>
    refine ih.tail ⟨i, ?_⟩
    have at' : (s.put i { c with stage := .joining j₁ } s.refresh).cycles[i]? =
        some { c with stage := .joining j₁ } := List.getElem?_set_self bound
    simpa [put] using Step.join at' rfl step

/-- A cycle that joins can end its join, publish and leave. -/
theorem steps_finish {s : AtomicRun} {i : Nat} {c : Cycle} {j : Join}
    (found : s.cycles[i]? = some c) (stage : c.stage = .joining j)
    (joins : Join.Reachable c.poll j) (now : Instant) :
    Steps s { s.put i { c with stage := .finished }
        (s.refresh.finish c.number now c.poll.outcomes).1 with
      transitions := s.transitions ++
        (s.refresh.finish c.number now c.poll.outcomes).2.transitions } := by
  obtain ⟨bound, -⟩ := List.getElem?_eq_some_iff.1 found
  obtain ⟨j', steps, ended⟩ := joins.exists_complete
  obtain ⟨outcomes, joined⟩ := Option.isSome_iff_exists.1 ended
  obtain ⟨-, -, same⟩ := Join.Account.complete (Join.Reachable.account (joins.trans steps)) joined
  have joinedAt : (s.put i { c with stage := .joining j' } s.refresh).cycles[i]? =
      some { c with stage := .joining j' } := List.getElem?_set_self bound
  have published := (steps_join found stage steps).tail ⟨i, .publish joinedAt rfl joined now⟩
  refine published.tail ⟨i, ?_⟩
  have leave := Step.leave (i := i) (s := { s.put i { c with stage := .published }
      (s.publication c now c.poll.outcomes).1 with
    transitions := s.transitions ++ (s.publication c now c.poll.outcomes).2.transitions })
    (List.getElem?_set_self bound) rfl
  simpa [put, publication, same, Refresh.finish_eq] using leave

theorem Mirrors.begin {s : AtomicRun} {r : RefreshRun} (m : Mirrors s r) {poll : Poll} :
    Mirrors { s with
      refresh := s.refresh.begin.2
      cycles := s.cycles ++ [⟨s.refresh.begin.1, poll, .joining (.begin poll)⟩] } (r.begin poll) where
  refresh := by rw [m.refresh]; rfl
  transitions := m.transitions
  flights := by
    rw [List.filterMap_append, m.flights, m.refresh]
    rfl
  joins := by
    intro c member j stage
    rcases List.mem_append.1 member with old | new
    · exact m.joins c old j stage
    · cases List.mem_singleton.1 new
      cases stage
      exact .refl

/-- A cycle that does not join any more polls no more. -/
theorem Mirrors.ends {s : AtomicRun} {r : RefreshRun} (m : Mirrors s r) {place : Nat} {f : Flight}
    (aloft : r.flights[place]? = some f) :
    ∃ i c j, s.cycles[i]? = some c ∧ c.stage = .joining j ∧ Join.Reachable c.poll j ∧
      f = ⟨c.number, c.poll⟩ ∧ ∀ stage, (∀ j, stage ≠ .joining j) →
        (s.cycles.set i { c with stage := stage }).filterMap flight? = r.flights.eraseIdx place ∧
        ∀ d ∈ s.cycles.set i { c with stage := stage }, ∀ j, d.stage = .joining j →
          Join.Reachable d.poll j := by
  rw [← m.flights] at aloft ⊢
  obtain ⟨i, c, found, flies, erase⟩ := exists_of_filterMap_getElem? aloft
  obtain ⟨⟨j, stage⟩, rfl⟩ := flight?_eq_some.1 flies
  refine ⟨i, c, j, found, stage, m.joins c (List.mem_of_getElem? found) j stage, rfl,
    fun stage ended => ⟨erase _ ?_, ?_⟩⟩
  · refine Option.eq_none_iff_forall_ne_some.2 fun f flies => ?_
    obtain ⟨⟨j, joins⟩, -⟩ := flight?_eq_some.1 flies
    exact ended j joins
  · intro d member j joins
    rcases List.mem_or_eq_of_mem_set member with old | rfl
    · exact m.joins d old j joins
    · exact absurd joins (ended j)

theorem exists_mirror {endpoints : List Endpoint} {r : RefreshRun}
    (reachable : RefreshRun.Reachable endpoints r) :
    ∃ s, Reachable endpoints s ∧ Mirrors s r := by
  induction reachable with
  | refl => exact ⟨fresh endpoints, .refl, rfl, rfl, rfl, by simp [fresh]⟩
  | tail _ step ih =>
    obtain ⟨s, steps, m⟩ := ih
    cases step with
    | @begin poll aligned =>
      exact ⟨_, steps.trans (steps_begin s (m.refresh ▸ aligned)), m.begin⟩
    | @land place f aloft now =>
      obtain ⟨i, c, j, found, stage, joins, rfl, ended⟩ := m.ends aloft
      obtain ⟨flights, joins'⟩ := ended .finished (by simp)
      refine ⟨_, steps.trans (steps_finish found stage joins now), ?_, ?_, flights, joins'⟩
      · rw [m.refresh]
        rfl
      · rw [RefreshRun.transitions_land, m.transitions, m.refresh]
        rfl
    | @abandon place f aloft =>
      obtain ⟨i, c, j, found, stage, -, rfl, ended⟩ := m.ends aloft
      obtain ⟨flights, joins'⟩ := ended .cancelled (by simp)
      refine ⟨_, steps.tail ⟨i, .cancel found stage⟩, ?_, m.transitions, flights, joins'⟩
      rw [put, m.refresh]
      rfl

/-! ## The statement -/

theorem in_flight_balanced {endpoints : List Endpoint} {s : AtomicRun}
    (reachable : Reachable endpoints s) :
    s.refresh.inFlight = s.cycles.countP (·.stage.isCounted) ∧
    (s.refresh.state = .idle ↔ ∀ c ∈ s.cycles, c.stage.isCounted = false) ∧
    (∀ (i : Nat) (s' : AtomicRun) (c c' : Cycle), Step i s s' → s.cycles[i]? = some c →
      s'.cycles[i]? = some c' → c.stage.isCounted = true → c'.stage.isCounted = false →
      1 ≤ s.refresh.inFlight ∧ s'.refresh.inFlight + 1 = s.refresh.inFlight) ∧
    (∀ (i k : Nat) (s' : AtomicRun) (c : Cycle) (j : Join), Step i s s' → k ≠ i →
      s.cycles[k]? = some c → c.stage = .joining j → s'.refresh.state = .refreshing) ∧
    (∀ (i : Nat) (t s' : AtomicRun) (c : Cycle), Step i s t → Steps t s' →
      s'.cycles[i]? = some c → c.stage = .cancelled →
      t.refresh.slot = s.refresh.slot ∧ t.refresh.lastHealth = s.refresh.lastHealth ∧
        t.transitions = s.transitions) ∧
    (∀ (i : Nat) (s' : AtomicRun) (c : Cycle), s.cycles[i]? = some c → c.stage = .cancelled →
      Steps s s' → s'.cycles[i]? = some c ∧
        ∀ (k : Nat) (d : Cycle), s'.cycles[k]? = some d → d.number = c.number → k ≠ i →
          i + UInt64.size ≤ k ∨ k + UInt64.size ≤ i) ∧
    (∀ run : RefreshRun, RefreshRun.Reachable endpoints run →
      ∃ t, Reachable endpoints t ∧ t.refresh = run.refresh ∧ t.transitions = run.transitions ∧
        t.cycles.filterMap flight? = run.flights) := by
  have balanced := reachable.balanced
  refine ⟨balanced.count, balanced.idle_iff,
    fun i s' c c' step before after => balanced.leaves step before after, ?_, ?_, ?_, ?_⟩
  · intro i k s' c j step other found joins
    have balanced' := Reachable.balanced (Relation.ReflTransGen.tail reachable ⟨i, step⟩)
    exact balanced'.refreshing step other found joins
  · intro i t s' c step steps found cancelled
    have same := step.shown_of_cancelled steps found cancelled
    simpa [shown] using same
  · intro i s' c found cancelled steps
    have stays := steps.cancelled found cancelled
    have balanced' := Reachable.balanced (Relation.ReflTransGen.trans reachable steps)
    exact ⟨stays, fun k d second same other => balanced'.number_apart stays second same other⟩
  · intro run reachable'
    obtain ⟨t, steps, mirrors⟩ := exists_mirror reachable'
    exact ⟨t, steps, mirrors.refresh, mirrors.transitions, mirrors.flights⟩

/-- The first of two cycles is cancelled while the second polls. -/
theorem in_flight_balanced_cancelled :
    ∃ s : AtomicRun, Reachable [⟨"A", "http://a"⟩] s ∧
      s.cycles.map (·.stage.isCounted) = [false, true] ∧ s.refresh.inFlight = 1 ∧
      s.refresh.inFlight = s.cycles.countP (·.stage.isCounted) ∧
      (s.refresh.state = .idle ↔ ∀ c ∈ s.cycles, c.stage.isCounted = false) := by
  let a : Endpoint := ⟨"A", "http://a"⟩
  let up : Poll := ⟨0, [(a, { result := .ok Report.empty })]⟩
  have aligned : up.endpoints = [a] := rfl
  have two : Reachable [a] _ :=
    Relation.ReflTransGen.trans (steps_begin (fresh [a]) aligned) (steps_begin _ aligned)
  have ended := two.tail ⟨0, .cancel (i := 0) rfl rfl⟩
  obtain ⟨count, idle, -⟩ := in_flight_balanced ended
  exact ⟨_, ended, rfl, rfl, count, idle⟩

end AtomicRun
end FleetWatch
