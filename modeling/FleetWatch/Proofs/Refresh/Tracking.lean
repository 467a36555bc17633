import FleetWatch.Proofs.Poll.Join
import FleetWatch.Proofs.Refresh.Newest
import Mathlib.Data.List.Basic

/-!
# What a timeline shows of its cycles

The cycles that have begun, in their order, decide what a timeline shows at any moment: which cycles
poll, how many there are, which have landed and what the slot holds.

* `Seen.progress`: all that happens to one cycle at a moment.
* `Tracks.launch`, `Tracks.progressAll`, `Tracks.wait`: the account is kept when a cycle begins, when
  those that are due land, and while time passes.
* `Tracks.refreshing_iff`, `Tracks.slot_eq_none_iff`, `Tracks.slot_eq_some`: what it shows.
* `Tracks.advance_idle`: a timeline whose loop does not run lands what is in flight, and begins none.
-/

namespace FleetWatch

theorem Poll.startedAt_le_endsAt (p : Poll) : p.startedAt ≤ p.endsAt := Nat.le_add_right _ _

theorem Poll.endsAt_mem_endings {p : Poll} (lasts : p.startedAt < p.endsAt) :
    p.endsAt ∈ p.endings := by
  rw [Poll.endsAt, Join.duration_eq] at lasts ⊢
  cases slowest : (p.fetches.map (·.2.delay)).max? with
  | none => simp [slowest] at lasts
  | some d =>
    obtain ⟨fetch, member, rfl⟩ := List.mem_map.1 (List.max?_mem slowest)
    exact List.mem_map.2 ⟨fetch, member, rfl⟩

namespace Timeline
open RefreshRun (HoldsNewest AcceptsMaxima)

variable {endpoints : List Endpoint} {plan : FetchPlan} {t t' t'' : Timeline} {fs gs : List Flight}

/-! ## Landings -/

/-- These flights have landed and no others; the slot and the answers are those of their landings. -/
def Landed (endpoints : List Endpoint) (fs : List Flight) (t : Timeline) : Prop :=
  ∃ landings : List Landing, (∀ f, f ∈ landings.map (·.flight) ↔ f ∈ fs) ∧
    HoldsNewest endpoints t.refresh.slot landings ∧ AcceptsMaxima landings ∧
    t.finished = landings.map fun l => (l.cycle, l.accepted)

theorem Landed.congr (landed : Landed endpoints fs t) (same : ∀ f, f ∈ fs ↔ f ∈ gs)
    (slot : t'.refresh.slot = t.refresh.slot) (finished : t'.finished = t.finished) :
    Landed endpoints gs t' := by
  obtain ⟨landings, flights, holds, maxima, answers⟩ := landed
  exact ⟨landings, fun f => (flights f).trans (same f), slot ▸ holds, maxima,
    finished.trans answers⟩

theorem Landed.land (landed : Landed endpoints fs t) (registry : t.refresh.endpoints = endpoints)
    (f : Flight) : Landed endpoints (fs ++ [f]) (t.land f) := by
  obtain ⟨landings, flights, holds, maxima, answers⟩ := landed
  -- The landing as a step of a run that has come as far as the timeline.
  let s : RefreshRun := { refresh := t.refresh, landings := landings }
  have account := RefreshRun.refresh_land s 0 f t.instant
  refine ⟨landings ++ [s.landing f t.instant], ?_, ?_, ?_, ?_⟩
  · intro g
    have here : (s.landing f t.instant).flight = f := rfl
    rw [List.map_append, List.mem_append, List.mem_append, flights g]
    simp [here]
  · have slot : (t.land f).refresh.slot = (s.land 0 f t.instant).refresh.slot := rfl
    rw [slot, account]
    cases accepts : s.refresh.slot.accepts f.cycle with
    | true =>
      rw [if_pos rfl, registry]
      have newest := (RefreshRun.accepts_iff holds f.cycle).1 accepts
      exact HoldsNewest.accept (l := s.landing f t.instant) newest t.instant
    | false => exact holds.refuse (l := s.landing f t.instant) accepts
  · exact RefreshRun.acceptsMaxima_land (s := s) holds maxima 0 f t.instant
  · simp only [Timeline.land, answers, List.map_append, List.map_singleton]
    rfl

/-! ## Flights seen at a moment -/

/-- What happens when flights are seen at the moment of a timeline: those that end land, and the
others go on. -/
structure Seen (endpoints : List Endpoint) (fs : List Flight) (t t' : Timeline) : Prop where
  now : t'.now = t.now
  loop : t'.loop = t.loop
  registry : t'.refresh.endpoints = t.refresh.endpoints
  counter : t'.refresh.nextCycle = t.refresh.nextCycle
  fetched : t'.fetched = t.fetched
  flights : t'.flights = t.flights ++ fs.filter (·.poll.endsAt ≠ t.now)
  inFlight : t'.refresh.inFlight = t.refresh.inFlight - (fs.filter (·.poll.endsAt = t.now)).length
  landed : ∀ gs, t.refresh.endpoints = endpoints → Landed endpoints gs t →
    Landed endpoints (gs ++ fs.filter (·.poll.endsAt = t.now)) t'

theorem Seen.nil : Seen endpoints [] t t where
  now := rfl
  loop := rfl
  registry := rfl
  counter := rfl
  fetched := rfl
  flights := (List.append_nil _).symm
  inFlight := rfl
  landed := fun gs _ landed => by simpa using landed

theorem Seen.append (first : Seen endpoints fs t t') (next : Seen endpoints gs t' t'') :
    Seen endpoints (fs ++ gs) t t'' where
  now := next.now.trans first.now
  loop := next.loop.trans first.loop
  registry := next.registry.trans first.registry
  counter := next.counter.trans first.counter
  fetched := next.fetched.trans first.fetched
  flights := by
    rw [next.flights, first.flights, first.now, List.filter_append, List.append_assoc]
  inFlight := by
    rw [next.inFlight, first.inFlight, first.now, List.filter_append, List.length_append,
      Nat.sub_sub]
  landed := by
    intro hs registry landed
    have both := next.landed _ (first.registry.trans registry) (first.landed hs registry landed)
    rwa [first.now, List.append_assoc, ← List.filter_append] at both

theorem Seen.progress (f : Flight) : Seen endpoints [f] t (t.progress f) := by
  by_cases ends : f.poll.endsAt = t.now
  · have lands : t.progress f = (t.write (f.poll.recordsAt t.now)).land f := by
      simp [Timeline.progress, ends, write]
    have account := RefreshRun.refresh_land ⟨t.refresh, [], [], []⟩ 0 f t.instant
    have refresh : (t.progress f).refresh =
        (RefreshRun.land ⟨t.refresh, [], [], []⟩ 0 f t.instant).refresh := by
      rw [lands]
      rfl
    constructor
    · rw [lands]
      rfl
    · rw [lands]
      rfl
    · rw [refresh, account]
      split <;> rfl
    · rw [refresh, account]
      split <;> rfl
    · rw [lands]
      rfl
    · rw [lands]
      simp [Timeline.land, write, ends]
    · rw [refresh, account]
      split <;> simp [ends]
    · intro gs registry landed
      have written : Landed endpoints gs (t.write (f.poll.recordsAt t.now)) :=
        landed.congr (fun _ => Iff.rfl) rfl rfl
      simpa [lands, ends] using written.land registry f
  · have goes : t.progress f =
        { t.write (f.poll.recordsAt t.now) with flights := t.flights ++ [f] } := by
      simp [Timeline.progress, ends, write]
    rw [goes]
    constructor
    · rfl
    · rfl
    · rfl
    · rfl
    · rfl
    · simp [ends]
    · simp [write, ends]
    · exact fun gs _ landed => landed.congr (by simp [ends]) rfl rfl

theorem Seen.foldl (fs : List Flight) : Seen endpoints fs t (fs.foldl Timeline.progress t) := by
  induction fs generalizing t with
  | nil => exact .nil
  | cons f fs ih => exact (Seen.progress f).append ih

/-! ## The account of the cycles -/

/-- What a timeline shows, by the cycles that have begun. -/
structure Tracks (endpoints : List Endpoint) (begun : List Flight) (t : Timeline) : Prop where
  registry : t.refresh.endpoints = endpoints
  counter : t.refresh.nextCycle = UInt64.ofNat begun.length
  fetched : t.fetched = begun.flatMap fun f => f.poll.endpoints.map (·.name)
  started : ∀ f ∈ begun, f.poll.startedAt ≤ t.now
  flights : t.flights = begun.filter (t.now < ·.poll.endsAt)
  inFlight : t.refresh.inFlight = t.flights.length
  landed : Landed endpoints (begun.filter (·.poll.endsAt ≤ t.now)) t

theorem tracks_ofEndpoints (endpoints : List Endpoint) :
    Tracks endpoints [] (ofEndpoints endpoints) where
  registry := rfl
  counter := rfl
  fetched := rfl
  started := fun f member => absurd member List.not_mem_nil
  flights := rfl
  inFlight := rfl
  landed := ⟨[], fun f => Iff.rfl, ⟨by simp [ofEndpoints], by simp [ofEndpoints]⟩,
    by simp [AcceptsMaxima, RefreshRun.AtEachLanding], rfl⟩

variable {begun : List Flight}

theorem Tracks.congr (tracks : Tracks endpoints begun t) (refresh : t'.refresh = t.refresh)
    (now : t'.now = t.now) (flights : t'.flights = t.flights) (finished : t'.finished = t.finished)
    (fetched : t'.fetched = t.fetched) : Tracks endpoints begun t' where
  registry := by rw [refresh, tracks.registry]
  counter := by rw [refresh, tracks.counter]
  fetched := fetched.trans tracks.fetched
  started := by
    rw [now]
    exact tracks.started
  flights := by rw [flights, now, tracks.flights]
  inFlight := by rw [refresh, flights, tracks.inFlight]
  landed := by
    rw [now]
    exact tracks.landed.congr (fun _ => Iff.rfl) (congrArg Refresh.slot refresh) finished

/-- The cycle that begins next in a timeline. -/
def nextFlight (plan : FetchPlan) (t : Timeline) : Flight := (t.begin plan).1

theorem Tracks.launch (tracks : Tracks endpoints begun t) (plan : FetchPlan) :
    Tracks endpoints (begun ++ [t.nextFlight plan]) (t.launch plan) := by
  have seen : Seen endpoints [t.nextFlight plan] (t.begin plan).2 (t.launch plan) := Seen.progress _
  have starts : (t.nextFlight plan).poll.startedAt = t.now := rfl
  have lasts : t.now ≤ (t.nextFlight plan).poll.endsAt := starts ▸ Poll.startedAt_le_endsAt _
  have now : (t.launch plan).now = t.now := seen.now
  have landed : Landed endpoints (begun.filter (·.poll.endsAt ≤ t.now)) (t.begin plan).2 :=
    tracks.landed.congr (fun _ => Iff.rfl) rfl rfl
  constructor
  · exact seen.registry.trans tracks.registry
  · rw [seen.counter, List.length_append, List.length_singleton, UInt64.ofNat_add, ← tracks.counter]
    rfl
  · rw [seen.fetched, List.flatMap_append, List.flatMap_singleton, ← tracks.fetched]
    rfl
  · intro f member
    rw [now]
    rcases List.mem_append.1 member with old | new
    · exact tracks.started f old
    · rw [List.mem_singleton.1 new]
      exact Nat.le_of_eq starts
  · have others : (t.begin plan).2.flights = begun.filter (t.now < ·.poll.endsAt) := tracks.flights
    rw [seen.flights, now, List.filter_append, others]
    congr 1
    refine List.filter_congr fun f member => ?_
    rw [List.mem_singleton.1 member]
    exact decide_eq_decide.2 ⟨fun goes => Nat.lt_of_le_of_ne lasts (Ne.symm goes), Nat.ne_of_gt⟩
  · have others : (t.begin plan).2.refresh.inFlight = (t.begin plan).2.flights.length + 1 :=
      congrArg (· + 1) tracks.inFlight
    rw [seen.inFlight, others, seen.flights, List.length_append]
    by_cases ends : (t.nextFlight plan).poll.endsAt = (t.begin plan).2.now <;> simp [ends]
  · refine (seen.landed _ tracks.registry landed).congr (fun f => ?_) rfl rfl
    rw [now, List.filter_append, List.mem_append, List.mem_append]
    refine or_congr_right ?_
    have atOnce : (t.begin plan).2.now = t.now := rfl
    simp only [List.mem_filter, List.mem_singleton, decide_eq_true_eq, atOnce]
    exact and_congr_right fun same => by rw [same]; omega

/-- The flights in the air at a later moment, when none has ended in between. -/
theorem Tracks.progressAll (tracks : Tracks endpoints begun t) {moment : Nat}
    (later : t.now ≤ moment)
    (next : ∀ f ∈ begun, t.now < f.poll.endsAt → moment ≤ f.poll.endsAt) :
    Tracks endpoints begun (progressAll { t with now := moment }) := by
  have seen : Seen endpoints t.flights { t with now := moment, flights := [] }
      (Timeline.progressAll { t with now := moment }) := Seen.foldl _
  have now : (Timeline.progressAll { t with now := moment }).now = moment := seen.now
  have flights : (Timeline.progressAll { t with now := moment }).flights =
      t.flights.filter (·.poll.endsAt ≠ moment) := seen.flights
  constructor
  · exact seen.registry.trans tracks.registry
  · exact seen.counter.trans tracks.counter
  · exact seen.fetched.trans tracks.fetched
  · intro f member
    rw [now]
    exact Nat.le_trans (tracks.started f member) later
  · rw [flights, now, tracks.flights, List.filter_filter]
    refine List.filter_congr fun f member => ?_
    have ahead := next f member
    rw [← Bool.decide_and]
    exact decide_eq_decide.2 (by omega)
  · have parts := List.length_eq_length_filter_add (l := t.flights) (·.poll.endsAt = moment)
    have others : t.flights.filter (fun f => !decide (f.poll.endsAt = moment)) =
        t.flights.filter (·.poll.endsAt ≠ moment) := by simp
    rw [seen.inFlight, flights, ← others]
    show t.refresh.inFlight - (t.flights.filter (·.poll.endsAt = moment)).length = _
    rw [tracks.inFlight]
    omega
  · have before : Landed endpoints (begun.filter (·.poll.endsAt ≤ t.now))
        { t with now := moment, flights := [] } := tracks.landed.congr (fun _ => Iff.rfl) rfl rfl
    refine (seen.landed _ tracks.registry before).congr (fun f => ?_) rfl rfl
    rw [now, tracks.flights]
    simp only [List.mem_append, List.mem_filter, decide_eq_true_eq]
    constructor
    · rintro (⟨member, ended⟩ | ⟨⟨member, -⟩, ends⟩)
      · exact ⟨member, Nat.le_trans ended later⟩
      · exact ⟨member, Nat.le_of_eq ends⟩
    · rintro ⟨member, ended⟩
      rcases Nat.lt_or_ge t.now f.poll.endsAt with aloft | before
      · exact .inr ⟨⟨member, aloft⟩, Nat.le_antisymm ended (next f member aloft)⟩
      · exact .inl ⟨member, before⟩

theorem Tracks.wait (tracks : Tracks endpoints begun t) {moment : Nat} (later : t.now ≤ moment)
    (quiet : ∀ f ∈ begun, t.now < f.poll.endsAt → moment < f.poll.endsAt) :
    Tracks endpoints begun { t with now := moment } := by
  have same : ∀ f ∈ begun, moment < f.poll.endsAt ↔ t.now < f.poll.endsAt := fun f member =>
    ⟨fun aloft => Nat.lt_of_le_of_lt later aloft, quiet f member⟩
  constructor
  · exact tracks.registry
  · exact tracks.counter
  · exact tracks.fetched
  · exact fun f member => Nat.le_trans (tracks.started f member) later
  · exact tracks.flights.trans
      (List.filter_congr fun f member => decide_eq_decide.2 (same f member).symm)
  · exact tracks.inFlight
  · refine tracks.landed.congr (fun f => ?_) rfl rfl
    simp only [List.mem_filter, decide_eq_true_eq]
    exact and_congr_right fun member => by
      rw [← Nat.not_lt, ← Nat.not_lt, same f member]

/-! ## What the account shows -/

theorem Tracks.refreshing_iff (tracks : Tracks endpoints begun t) :
    t.refresh.state = .refreshing ↔ ∃ f ∈ begun, t.now < f.poll.endsAt := by
  have polls : t.refresh.state = .refreshing ↔ t.flights ≠ [] := by
    rw [Refresh.state, tracks.inFlight]
    cases t.flights <;> simp
  rw [polls, tracks.flights, ne_eq, List.filter_eq_nil_iff]
  simp

theorem Tracks.slot_eq_none_iff (tracks : Tracks endpoints begun t) :
    t.refresh.slot = none ↔ ∀ f ∈ begun, t.now < f.poll.endsAt := by
  obtain ⟨landings, flights, holds, -⟩ := tracks.landed
  rw [holds.1, ← List.map_eq_nil_iff (f := (·.flight)), List.eq_nil_iff_forall_not_mem]
  simp only [flights, List.mem_filter, decide_eq_true_eq, not_and, Nat.not_le]

theorem Tracks.slot_eq_some (tracks : Tracks endpoints begun t)
    {p : Published} (held : t.refresh.slot = some p) :
    ∃ f ∈ begun, f.poll.endsAt ≤ t.now ∧ f.cycle = p.cycle ∧
      p.board = Board.aggregate endpoints f.poll.outcomes ∧
      ∀ g ∈ begun, g.poll.endsAt ≤ t.now → g.cycle ≤ p.cycle := by
  obtain ⟨landings, flights, holds, -⟩ := tracks.landed
  have landed (f : Flight) : (∃ l ∈ landings, l.flight = f) ↔ f ∈ begun ∧ f.poll.endsAt ≤ t.now := by
    rw [← List.mem_map, flights, List.mem_filter, decide_eq_true_eq]
  obtain ⟨l, member, cycle, board, newest⟩ := holds.2 p held
  obtain ⟨begun, ended⟩ := (landed l.flight).1 ⟨l, member, rfl⟩
  refine ⟨l.flight, begun, ended, cycle, board, fun g begun ended => ?_⟩
  obtain ⟨m, member, rfl⟩ := (landed g).2 ⟨begun, ended⟩
  exact newest m member

/-! ## The next moment -/

theorem le_of_nextMoment? {moment other : Nat} (next : t.nextMoment? = some moment)
    (member : other ∈ t.moments) (ahead : t.now < other) : moment ≤ other := by
  have later : other ∈ t.moments.filter (t.now < ·) :=
    List.mem_filter.2 ⟨member, decide_eq_true ahead⟩
  exact (List.min?_eq_some_iff.1 next).2 other later

theorem not_ahead_of_nextMoment?_eq_none {other : Nat} (none : t.nextMoment? = none)
    (member : other ∈ t.moments) : other ≤ t.now := by
  have empty := List.min?_eq_none_iff.1 none
  have behind := List.filter_eq_nil_iff.1 empty other member
  simpa using behind

/-- The landing of a flight in the air is a moment of the timeline. -/
theorem Tracks.endsAt_mem_moments (tracks : Tracks endpoints begun t) {f : Flight}
    (member : f ∈ begun) (aloft : t.now < f.poll.endsAt) : f.poll.endsAt ∈ t.moments := by
  refine List.mem_append_left _ (List.mem_flatMap.2 ⟨f, ?_, ?_⟩)
  · rw [tracks.flights]
    exact List.mem_filter.2 ⟨member, decide_eq_true aloft⟩
  · exact Poll.endsAt_mem_endings (Nat.lt_of_le_of_lt (tracks.started f member) aloft)

/-! ## A loop that does not run -/

def Idle (t : Timeline) : Prop := ∀ period next, t.loop ≠ .running period next

theorem Idle.tick (idle : Idle t) (plan : FetchPlan) : t.tick plan = t := by
  unfold Timeline.tick
  split
  · next running => exact absurd running (idle _ _)
  · rfl

theorem loop_progressAll (moment : Nat) :
    (Timeline.progressAll { t with now := moment }).loop = t.loop := by
  have seen : Seen [] t.flights { t with now := moment, flights := [] }
      (Timeline.progressAll { t with now := moment }) := Seen.foldl _
  exact seen.loop

theorem Tracks.advance_idle (tracks : Tracks endpoints begun t) (idle : Idle t) {target : Nat}
    (later : t.now ≤ target) :
    Tracks endpoints begun (t.advance plan target) ∧ (t.advance plan target).now = target := by
  fun_induction Timeline.advance plan t target with
  | case1 t moment next within ih =>
    have ahead := lt_of_nextMoment? next
    have seen := tracks.progressAll (Nat.le_of_lt ahead) fun f member aloft =>
      le_of_nextMoment? next (tracks.endsAt_mem_moments member aloft) aloft
    have idle' : Idle (Timeline.progressAll { t with now := moment }) := by
      rw [Idle, loop_progressAll]
      exact idle
    have arrived : t.arrive plan moment = Timeline.progressAll { t with now := moment } :=
      idle'.tick plan
    refine ih (arrived ▸ seen) (arrived ▸ idle') ?_
    rw [now_arrive]
    exact within
  | case2 t moment next beyond =>
    rw [Nat.max_eq_right later]
    refine ⟨tracks.wait later fun f member aloft => ?_, rfl⟩
    have least := le_of_nextMoment? next (tracks.endsAt_mem_moments member aloft) aloft
    omega
  | case3 t none =>
    rw [Nat.max_eq_right later]
    refine ⟨tracks.wait later fun f member aloft => ?_, rfl⟩
    have behind := not_ahead_of_nextMoment?_eq_none none (tracks.endsAt_mem_moments member aloft)
    omega

end Timeline
end FleetWatch
