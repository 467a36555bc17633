import FleetWatch.Proofs.Refresh.Newest

/-!
# The log of transitions

Slot, last health and log are kept apart and tell one story: the transitions, applied one after the
other to a fleet that is up, give the health of the board that is shown.  Every transition changes
the health of its endpoint, so those of one endpoint alternate.

* `transitionsFrom_leads`: the transitions between two vectors lead from the one to the other, each
  of them a change.
* `Flips.alternates`: events that each change the health of their position alternate.
* `transitions_replay`: the log in every reachable state.
-/

namespace FleetWatch

/-! ## Applying transitions -/

def Transition.apply (health : List Bool) (t : Transition) : List Bool :=
  health.set t.position t.healthy

def replay (health : List Bool) (ts : List Transition) : List Bool := ts.foldl Transition.apply health

def eventsAt (i : Nat) (ts : List Transition) : List Bool :=
  (ts.filter (·.position = i)).map (·.healthy)

/-- Every transition changes the health that its position has when it is applied. -/
def Flips : List Bool → List Transition → Prop
  | _, [] => True
  | health, t :: ts => health[t.position]? = some (!t.healthy) ∧ Flips (t.apply health) ts

theorem replay_append (health : List Bool) (ts us : List Transition) :
    replay health (ts ++ us) = replay (replay health ts) us := List.foldl_append

theorem flips_append (health : List Bool) (ts us : List Transition) :
    Flips health (ts ++ us) ↔ Flips health ts ∧ Flips (replay health ts) us := by
  induction ts generalizing health with
  | nil => simp [Flips, replay]
  | cons t ts ih =>
    simp only [List.cons_append, Flips, ih, and_assoc]
    rfl

theorem Flips.alternates {health : List Bool} {ts : List Transition} (flips : Flips health ts)
    {i : Nat} {was : Bool} (start : health[i]? = some was) :
    ∀ (k : Nat) (now : Bool), (eventsAt i ts)[k]? = some now → now = if k % 2 = 0 then !was else was := by
  induction ts generalizing health was with
  | nil => simp [eventsAt]
  | cons t ts ih =>
    obtain ⟨flip, rest⟩ := flips
    intro k now event
    by_cases here : t.position = i
    · have change : was = !t.healthy := by
        rw [here, start] at flip
        exact Option.some.inj flip
      have after : (t.apply health)[i]? = some t.healthy := by
        have bound := (List.getElem?_eq_some_iff.1 start).1
        rw [Transition.apply, here, List.getElem?_set_self bound]
      have shift : eventsAt i (t :: ts) = t.healthy :: eventsAt i ts := by simp [eventsAt, here]
      rw [shift] at event
      cases k with
      | zero => simpa [change] using event.symm
      | succ k =>
        rw [ih rest after k now event, change]
        rcases Nat.mod_two_eq_zero_or_one k with even | odd
        · simp [even, show (k + 1) % 2 = 1 by omega]
        · simp [odd, show (k + 1) % 2 = 0 by omega]
    · have after : (t.apply health)[i]? = some was := by
        rw [Transition.apply, List.getElem?_set_ne here, start]
      have shift : eventsAt i (t :: ts) = eventsAt i ts := by simp [eventsAt, here]
      rw [shift] at event
      exact ih rest after k now event

/-! ## The transitions between two vectors -/

section
variable {endpoints : List Endpoint} {wases nows : List Bool}

theorem transitionsFrom_leads (settled : List Bool) (was : endpoints.length = wases.length)
    (now : endpoints.length = nows.length) :
    Flips (settled ++ wases) (transitionsFrom settled.length endpoints wases nows) ∧
      replay (settled ++ wases) (transitionsFrom settled.length endpoints wases nows) =
        settled ++ nows := by
  induction endpoints generalizing settled wases nows with
  | nil => simp [List.length_eq_zero_iff.1 was.symm, List.length_eq_zero_iff.1 now.symm,
      transitionsFrom, replay, Flips]
  | cons endpoint endpoints ih =>
    obtain ⟨w, wases, rfl⟩ := List.exists_cons_of_length_eq_add_one was.symm
    obtain ⟨n, nows, rfl⟩ := List.exists_cons_of_length_eq_add_one now.symm
    have step := ih (settled ++ [n]) (Nat.succ.inj was) (Nat.succ.inj now)
    simp only [List.append_assoc, List.singleton_append, List.length_append,
      List.length_singleton] at step
    by_cases same : w = n
    · simpa [transitionsFrom, same] using step
    · have flip : (settled ++ w :: wases)[settled.length]? = some (!n) := by
        rw [List.getElem?_append_right (Nat.le_refl _), Nat.sub_self, List.getElem?_cons_zero,
          Bool.eq_not_of_ne same]
      have applied : Transition.apply (settled ++ w :: wases) ⟨settled.length, endpoint.name, n⟩ =
          settled ++ n :: wases := by
        rw [Transition.apply, List.set_append_right _ _ (Nat.le_refl _), Nat.sub_self,
          List.set_cons_zero]
      rw [transitionsFrom, if_neg same, Flips, replay, List.foldl_cons, applied]
      exact ⟨⟨flip, step.1⟩, step.2⟩

theorem mem_transitionsFrom {i : Nat} {t : Transition}
    (member : t ∈ transitionsFrom i endpoints wases nows) :
    ∃ k e, t.position = i + k ∧ endpoints[k]? = some e ∧ t.name = e.name := by
  induction endpoints generalizing i wases nows with
  | nil => simp [transitionsFrom] at member
  | cons endpoint endpoints ih =>
    rcases wases with _ | ⟨w, wases⟩
    · simp [transitionsFrom] at member
    rcases nows with _ | ⟨n, nows⟩
    · simp [transitionsFrom] at member
    have later : t ∈ transitionsFrom (i + 1) endpoints wases nows →
        ∃ k e, t.position = i + k ∧ (endpoint :: endpoints)[k]? = some e ∧ t.name = e.name := by
      intro member
      obtain ⟨k, e, position, found, name⟩ := ih member
      exact ⟨k + 1, e, by omega, found, name⟩
    rw [transitionsFrom] at member
    by_cases same : w = n
    · rw [if_pos same] at member
      exact later member
    · rw [if_neg same] at member
      rcases List.mem_cons.1 member with rfl | member
      · exact ⟨0, endpoint, rfl, rfl, rfl⟩
      · exact later member

theorem transitionsFrom_ordered (i : Nat) :
    ((transitionsFrom i endpoints wases nows).map (·.position)).Pairwise (· < ·) := by
  induction endpoints generalizing i wases nows with
  | nil => simp [transitionsFrom]
  | cons endpoint endpoints ih =>
    rcases wases with _ | ⟨w, wases⟩
    · simp [transitionsFrom]
    rcases nows with _ | ⟨n, nows⟩
    · simp [transitionsFrom]
    rw [transitionsFrom]
    by_cases same : w = n
    · rw [if_pos same]
      exact ih (i + 1)
    · rw [if_neg same, List.map_cons, List.pairwise_cons]
      refine ⟨?_, ih (i + 1)⟩
      intro position member
      obtain ⟨t, later, rfl⟩ := List.mem_map.1 member
      obtain ⟨k, e, position, -, -⟩ := mem_transitionsFrom later
      show i < t.position
      omega

end

theorem transitionsFrom_self (i : Nat) (endpoints : List Endpoint) (health : List Bool) :
    transitionsFrom i endpoints health health = [] := by
  induction endpoints generalizing i health with
  | nil => rfl
  | cons endpoint endpoints ih => cases health <;> simp [transitionsFrom, ih]

/-! ## The log of a run -/

namespace RefreshRun

def transitions (s : RefreshRun) : List Transition :=
  s.landings.flatMap (·.publication.transitions)

def allUp (endpoints : List Endpoint) : List Bool := endpoints.map fun _ => true

def lastAccepted (endpoints : List Endpoint) (landings : List Landing) : Option (List Bool) :=
  ((landings.filter (·.accepted)).getLast?).map fun l => (l.board endpoints).health

/-- An accepted landing logs what differs from the last accepted before it, any other nothing. -/
def LogsChanges (endpoints : List Endpoint) : List Landing → Prop :=
  AtEachLanding fun before l => l.publication.transitions =
    if l.accepted then
      transitionsFrom 0 endpoints ((lastAccepted endpoints before).getD (allUp endpoints))
        (l.board endpoints).health
    else []

structure Logged (endpoints : List Endpoint) (s : RefreshRun) : Prop where
  shown : s.refresh.lastHealth = s.refresh.slot.map (·.board.health)
  last : s.refresh.lastHealth = lastAccepted endpoints s.landings
  sized : s.refresh.previousHealth.length = endpoints.length
  changes : LogsChanges endpoints s.landings
  replayed : replay (allUp endpoints) s.transitions = s.refresh.previousHealth
  flips : Flips (allUp endpoints) s.transitions

theorem logged_fresh (endpoints : List Endpoint) : Logged endpoints (fresh endpoints) where
  shown := rfl
  last := rfl
  sized := by simp [fresh, Refresh.previousHealth]
  changes := by simp [fresh, LogsChanges, AtEachLanding]
  replayed := rfl
  flips := trivial

theorem length_health {endpoints : List Endpoint} {s : RefreshRun} (c : Consistent endpoints s)
    {f : Flight} (member : f ∈ s.begun) :
    (Board.aggregate endpoints f.poll.outcomes).health.length = endpoints.length := by
  have aligned := congrArg List.length (c.aligned f member)
  simp only [Poll.endpoints, List.length_map] at aligned
  simp [Board.health, Board.aggregate, Poll.outcomes, aligned]

theorem lastAccepted_concat (endpoints : List Endpoint) (landings : List Landing) (l : Landing) :
    lastAccepted endpoints (landings ++ [l]) =
      if l.accepted then some (l.board endpoints).health else lastAccepted endpoints landings := by
  cases accepted : l.accepted <;> simp [lastAccepted, List.filter_append, accepted]

theorem transitions_land (s : RefreshRun) (place : Nat) (f : Flight) (now : Instant) :
    (s.land place f now).transitions =
      s.transitions ++ (s.landing f now).publication.transitions := by
  simp [transitions, land]

theorem Logged.accept {endpoints : List Endpoint} {s : RefreshRun} (logged : Logged endpoints s)
    (c : Consistent endpoints s) {place : Nat} {f : Flight} (member : f ∈ s.begun) (now : Instant)
    (accepts : s.refresh.slot.accepts f.cycle = true) :
    Logged endpoints (s.land place f now) := by
  have sized := length_health c member
  have logs := transitions_landing s f now
  have next := refresh_land s place f now
  rw [accepts, if_pos rfl, c.registry] at logs next
  refine ⟨?_, ?_, ?_, ?_, ?_, ?_⟩
  · rw [next]
    rfl
  · rw [next]
    simp [land, lastAccepted_concat, accepted_landing, accepts]
  · rw [next]
    exact sized
  · refine logged.changes.concat ?_
    rw [accepted_landing, accepts, if_pos rfl, logs, ← logged.last, Refresh.previousHealth,
      c.registry]
    rfl
  · rw [transitions_land, replay_append, logged.replayed, logs, next]
    exact (transitionsFrom_leads [] logged.sized.symm sized.symm).2
  · rw [transitions_land, flips_append, logged.replayed, logs]
    exact ⟨logged.flips, (transitionsFrom_leads [] logged.sized.symm sized.symm).1⟩

theorem Logged.refuse {endpoints : List Endpoint} {s : RefreshRun} (logged : Logged endpoints s)
    {place : Nat} {f : Flight} (now : Instant) (refuses : s.refresh.slot.accepts f.cycle = false) :
    Logged endpoints (s.land place f now) := by
  have silent := transitions_landing s f now
  have next := refresh_land s place f now
  rw [refuses, if_neg Bool.false_ne_true] at silent next
  refine ⟨?_, ?_, ?_, ?_, ?_, ?_⟩
  · rw [next]
    exact logged.shown
  · rw [next]
    simpa [land, lastAccepted_concat, accepted_landing, refuses] using logged.last
  · rw [next]
    exact logged.sized
  · refine logged.changes.concat ?_
    rw [accepted_landing, refuses, if_neg Bool.false_ne_true, silent]
  · rw [transitions_land, silent, List.append_nil, next]
    exact logged.replayed
  · rw [transitions_land, silent, List.append_nil]
    exact logged.flips

theorem Reachable.logged {endpoints : List Endpoint} {s : RefreshRun}
    (reachable : Reachable endpoints s) : Logged endpoints s := by
  induction reachable with
  | refl => exact logged_fresh endpoints
  | @tail s _ steps step ih =>
    cases step with
    | begin aligned => exact ⟨ih.shown, ih.last, ih.sized, ih.changes, ih.replayed, ih.flips⟩
    | @land place f aloft now =>
      have consistent : Consistent endpoints s := Reachable.consistent steps
      have member := consistent.aloft f (List.mem_of_getElem? aloft)
      cases accepts : s.refresh.slot.accepts f.cycle with
      | true => exact ih.accept consistent member now accepts
      | false => exact ih.refuse now accepts
    | abandon aloft => exact ⟨ih.shown, ih.last, ih.sized, ih.changes, ih.replayed, ih.flips⟩

/-! ## What the log tells -/

theorem LogsChanges.of_mem {endpoints : List Endpoint} {landings : List Landing}
    (changes : LogsChanges endpoints landings) {l : Landing} (member : l ∈ landings) :
    ∃ was now, l.publication.transitions = transitionsFrom 0 endpoints was now := by
  obtain ⟨before, after, split⟩ := List.append_of_mem member
  have logs := changes before l after split
  cases accepted : l.accepted with
  | true =>
    simp only [accepted, if_true] at logs
    exact ⟨_, _, logs⟩
  | false =>
    simp only [accepted, Bool.false_eq_true, if_false] at logs
    exact ⟨[], [], by rw [logs, transitionsFrom_self]⟩

theorem LogsChanges.refused {endpoints : List Endpoint} {landings : List Landing}
    (changes : LogsChanges endpoints landings) {l : Landing} (member : l ∈ landings)
    (refused : l.accepted = false) : l.publication.transitions = [] := by
  obtain ⟨before, after, split⟩ := List.append_of_mem member
  simpa [refused] using changes before l after split

theorem Logged.named {endpoints : List Endpoint} {s : RefreshRun} (logged : Logged endpoints s)
    {t : Transition} (member : t ∈ s.transitions) :
    ∃ e, endpoints[t.position]? = some e ∧ t.name = e.name := by
  obtain ⟨l, landed, member⟩ := List.mem_flatMap.1 member
  obtain ⟨was, now, logs⟩ := logged.changes.of_mem landed
  rw [logs] at member
  obtain ⟨k, e, position, found, name⟩ := mem_transitionsFrom member
  rw [Nat.zero_add] at position
  exact ⟨e, position ▸ found, name⟩

theorem Logged.alternates {endpoints : List Endpoint} {s : RefreshRun}
    (logged : Logged endpoints s) {i k : Nat} {healthy : Bool}
    (event : (eventsAt i s.transitions)[k]? = some healthy) : healthy = decide (k % 2 = 1) := by
  obtain ⟨t, member, -⟩ := List.mem_map.1 (List.mem_of_getElem? event)
  obtain ⟨member, here⟩ := List.mem_filter.1 member
  obtain ⟨e, found, -⟩ := logged.named member
  rw [of_decide_eq_true here] at found
  have start : (allUp endpoints)[i]? = some true := by
    rw [allUp, List.getElem?_map, found, Option.map_some]
  rw [logged.flips.alternates start k healthy event]
  rcases Nat.mod_two_eq_zero_or_one k with even | odd
  · simp [even]
  · simp [odd]

theorem LogsChanges.unchanged {endpoints : List Endpoint} {landings : List Landing}
    (changes : LogsChanges endpoints landings) {before between after : List Landing}
    {l m : Landing} (split : landings = before ++ l :: (between ++ m :: after))
    (first : l.accepted = true) (refused : ∀ n ∈ between, n.accepted = false)
    (same : (m.board endpoints).health = (l.board endpoints).health) :
    m.publication.transitions = [] := by
  have split' : landings = (before ++ l :: between) ++ m :: after := by simp [split]
  have none : between.filter (·.accepted) = [] :=
    List.filter_eq_nil_iff.2 fun n member => by simp [refused n member]
  have last : lastAccepted endpoints (before ++ l :: between) = some (l.board endpoints).health := by
    simp [lastAccepted, List.filter_append, first, none]
  rw [changes _ m after split', last, same]
  simp [transitionsFrom_self]

theorem Step.transitions {s s' : RefreshRun} (step : Step s s') :
    s'.transitions = s.transitions ∨
      ∃ l, l.accepted = true ∧ s'.landings = s.landings ++ [l] ∧
        s'.transitions = s.transitions ++ l.publication.transitions := by
  cases step with
  | begin aligned => exact .inl rfl
  | @land place f aloft now =>
    cases accepts : s.refresh.slot.accepts f.cycle with
    | true =>
      exact .inr ⟨s.landing f now, by rw [accepted_landing, accepts], rfl, transitions_land ..⟩
    | false =>
      refine .inl ?_
      rw [transitions_land, transitions_landing, accepts]
      exact List.append_nil _
  | abandon aloft => exact .inl rfl

/-- What the logged transitions tell of a run, and which of its cycles log any. -/
structure Replays (endpoints : List Endpoint) (s : RefreshRun) : Prop where
  unpublished : s.refresh.slot = none → s.transitions = [] ∧ s.refresh.lastHealth = none
  shown : ∀ p, s.refresh.slot = some p →
    replay (allUp endpoints) s.transitions = p.board.cards.map (·.healthy) ∧
    s.refresh.lastHealth = some (p.board.cards.map (·.healthy))
  alternate : ∀ (i k : Nat) (healthy : Bool), (eventsAt i s.transitions)[k]? = some healthy →
    healthy = decide (k % 2 = 1)
  named : ∀ t ∈ s.transitions, ∃ e, endpoints[t.position]? = some e ∧ t.name = e.name
  ordered : ∀ l ∈ s.landings, (l.publication.transitions.map (·.position)).Pairwise (· < ·)
  refused : ∀ l ∈ s.landings, l.accepted = false → l.publication.transitions = []
  step : ∀ s', Step s s' → s'.transitions = s.transitions ∨
    ∃ l, l.accepted = true ∧ s'.landings = s.landings ++ [l] ∧
      s'.transitions = s.transitions ++ l.publication.transitions
  unchanged : ∀ before l between m after, s.landings = before ++ l :: (between ++ m :: after) →
    l.accepted = true → (∀ n ∈ between, n.accepted = false) →
    (m.board endpoints).health = (l.board endpoints).health → m.publication.transitions = []

theorem transitions_replay {endpoints : List Endpoint} {s : RefreshRun}
    (reachable : Reachable endpoints s) : Replays endpoints s := by
  have logged := reachable.logged
  refine ⟨?_, ?_, fun i k healthy event => logged.alternates event,
    fun t member => logged.named member, ?_,
    fun l member refused => logged.changes.refused member refused, fun s' step => step.transitions,
    fun before l between m after split first refused same =>
      logged.changes.unchanged split first refused same⟩
  · intro empty
    have none : s.landings = [] := reachable.newest.1.1.1 empty
    exact ⟨by simp [RefreshRun.transitions, none], by rw [logged.shown, empty]; rfl⟩
  · intro p held
    have shown : s.refresh.lastHealth = some p.board.health := by rw [logged.shown, held]; rfl
    refine ⟨?_, shown⟩
    rw [logged.replayed, Refresh.previousHealth, shown]
    rfl
  · intro l member
    obtain ⟨was, now, logs⟩ := logged.changes.of_mem member
    rw [logs]
    exact transitionsFrom_ordered 0

/-- The endpoint goes down and comes back; a late cycle that saw it up is refused in between. -/
theorem transitions_replay_down_up :
    ∃ s : RefreshRun, Reachable [⟨"A", "http://a"⟩] s ∧
      s.landings.map (·.accepted) = [true, false, true] ∧
      s.transitions = [⟨0, "A", false⟩, ⟨0, "A", true⟩] ∧
      ∀ p, s.refresh.slot = some p →
        replay (allUp [⟨"A", "http://a"⟩]) s.transitions = p.board.cards.map (·.healthy) ∧
        s.refresh.lastHealth = some (p.board.cards.map (·.healthy)) := by
  let a : Endpoint := ⟨"A", "http://a"⟩
  let up : Poll := ⟨0, [(a, { result := .ok Report.empty })]⟩
  let down : Poll := ⟨0, [(a, { result := .error (.network "A" "connection refused") })]⟩
  let three := (((fresh [a]).begin up).begin down).begin up
  have begun : Reachable [a] three := .tail (.tail (.tail .refl (.begin rfl)) (.begin rfl)) (.begin rfl)
  have ended := Relation.ReflTransGen.tail (.tail (.tail begun (@Step.land _ 1 _ rfl ⟨5, 0⟩))
    (@Step.land _ 0 _ rfl ⟨6, 0⟩)) (@Step.land _ 0 _ rfl ⟨7, 0⟩)
  exact ⟨_, ended, rfl, rfl, (transitions_replay ended).shown⟩

end RefreshRun
end FleetWatch
