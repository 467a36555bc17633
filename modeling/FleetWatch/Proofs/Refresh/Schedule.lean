import FleetWatch.Proofs.Refresh.Tracking
import Mathlib.Data.List.Range

/-!
# The schedule of a running loop

A loop that runs begins a cycle with every period, however long the cycles take, until its shutdown
is requested; those that poll then still land.

* `OnTime.advance`: while the loop runs, all cycles that are due have begun and no other.
* `tracks_atMoment`: the cycles that have begun at any moment, before the shutdown and after it.
* `loop_keeps_schedule`: what begins when, what polls and what the slot holds, in closed form.
-/

namespace FleetWatch

/-- How long the slowest fetch of cycle `k` takes. -/
def FetchPlan.duration (plan : FetchPlan) (k : Nat) : Nat :=
  Poll.duration ⟨0, plan (UInt64.ofNat k)⟩

namespace Timeline

variable {endpoints : List Endpoint} {plan : FetchPlan} {period n : Nat} {t : Timeline}

/-! ## The timetable -/

/-- Cycle `k` of a loop that begins one with every period. -/
def scheduled (plan : FetchPlan) (period k : Nat) : Flight :=
  ⟨UInt64.ofNat k, k * period, plan (UInt64.ofNat k)⟩

def timetable (plan : FetchPlan) (period n : Nat) : List Flight :=
  (List.range n).map (scheduled plan period)

theorem timetable_succ :
    timetable plan period (n + 1) = timetable plan period n ++ [scheduled plan period n] := by
  rw [timetable, List.range_succ, List.map_append]
  rfl

theorem mem_timetable {f : Flight} :
    f ∈ timetable plan period n ↔ ∃ k < n, f = scheduled plan period k := by
  simp only [timetable, List.mem_map, List.mem_range, eq_comm]

theorem Tracks.nextFlight (tracks : Tracks endpoints (timetable plan period n) t)
    (due : t.now = n * period) : t.nextFlight plan = scheduled plan period n := by
  have number : t.refresh.nextCycle = UInt64.ofNat n := by
    rw [tracks.counter, timetable, List.length_map, List.length_range]
  simp only [Timeline.nextFlight, Timeline.begin, Refresh.begin, scheduled, number, due]

/-! ## While the loop runs -/

/-- The loop runs and is ahead of time by less than a period. -/
structure OnTime (endpoints : List Endpoint) (plan : FetchPlan) (period n : Nat) (t : Timeline) :
    Prop where
  tracks : Tracks endpoints (timetable plan period n) t
  loop : t.loop = .running period (n * period)
  ahead : t.now < n * period

theorem OnTime.due_iff (onTime : OnTime endpoints plan period n t) (k : Nat) :
    k < n ↔ k * period ≤ t.now := by
  constructor
  · intro begun
    exact onTime.tracks.started _ (mem_timetable.2 ⟨k, begun, rfl⟩)
  · intro due
    exact Nat.lt_of_mul_lt_mul_right (Nat.lt_of_le_of_lt due onTime.ahead)

theorem OnTime.tick (tracks : Tracks endpoints (timetable plan period n) t)
    (loop : t.loop = .running period (n * period)) (within : t.now ≤ n * period)
    (positive : 0 < period) : ∃ m, OnTime endpoints plan period m (t.tick plan) := by
  have ticks : t.tick plan = if n * period = t.now then
      { t.launch plan with loop := .running period (n * period + period) } else t := by
    simp only [Timeline.tick, loop]
  rw [ticks]
  by_cases due : n * period = t.now
  · rw [if_pos due]
    have launched := tracks.launch plan
    rw [tracks.nextFlight due.symm, ← timetable_succ] at launched
    refine ⟨n + 1, launched.congr rfl rfl rfl rfl rfl, ?_, ?_⟩
    · rw [Nat.succ_mul]
    · show (t.launch plan).now < (n + 1) * period
      rw [now_launch, ← due, Nat.succ_mul]
      exact Nat.lt_add_of_pos_right positive
  · rw [if_neg due]
    exact ⟨n, tracks, loop, Nat.lt_of_le_of_ne within (Ne.symm due)⟩

theorem OnTime.arrive (onTime : OnTime endpoints plan period n t) (positive : 0 < period)
    {moment : Nat} (next : t.nextMoment? = some moment) :
    ∃ m, OnTime endpoints plan period m (t.arrive plan moment) := by
  have later := lt_of_nextMoment? next
  have seen := onTime.tracks.progressAll (Nat.le_of_lt later) fun f member aloft =>
    le_of_nextMoment? next (onTime.tracks.endsAt_mem_moments member aloft) aloft
  have begins : n * period ∈ t.moments := by
    rw [moments, onTime.loop]
    exact List.mem_append_right _ (List.mem_singleton.2 rfl)
  have loop := (loop_progressAll moment).trans onTime.loop
  have within : (progressAll { t with now := moment }).now ≤ n * period := by
    rw [progressAll, now_foldl_progress]
    exact le_of_nextMoment? next begins onTime.ahead
  exact OnTime.tick seen loop within positive

theorem OnTime.wait (onTime : OnTime endpoints plan period n t) {target : Nat}
    (later : t.now ≤ target) (quiet : ∀ moment ∈ t.moments, t.now < moment → target < moment) :
    OnTime endpoints plan period n { t with now := target } where
  tracks := onTime.tracks.wait later fun f member aloft =>
    quiet _ (onTime.tracks.endsAt_mem_moments member aloft) aloft
  loop := onTime.loop
  ahead := by
    refine quiet _ ?_ onTime.ahead
    rw [moments, onTime.loop]
    exact List.mem_append_right _ (List.mem_singleton.2 rfl)

theorem OnTime.advance (onTime : OnTime endpoints plan period n t) (positive : 0 < period)
    {target : Nat} (later : t.now ≤ target) :
    (∃ m, OnTime endpoints plan period m (t.advance plan target)) ∧
      (t.advance plan target).now = target := by
  fun_induction Timeline.advance plan t target generalizing n with
  | case1 t moment next within ih =>
    obtain ⟨m, arrived⟩ := onTime.arrive positive next
    refine ih arrived ?_
    rw [now_arrive]
    exact within
  | case2 t moment next beyond =>
    rw [Nat.max_eq_right later]
    refine ⟨⟨n, onTime.wait later fun other member ahead => ?_⟩, rfl⟩
    have least := le_of_nextMoment? next member ahead
    omega
  | case3 t none =>
    rw [Nat.max_eq_right later]
    refine ⟨⟨n, onTime.wait later fun other member ahead => ?_⟩, rfl⟩
    have behind := not_ahead_of_nextMoment?_eq_none none member
    omega

theorem exists_onTime_start (endpoints : List Endpoint) (plan : FetchPlan) (positive : 0 < period) :
    (∃ m, OnTime endpoints plan period m ((ofEndpoints endpoints).start plan period)) ∧
      ((ofEndpoints endpoints).start plan period).now = 0 := by
  let fresh := ofEndpoints endpoints
  let running : Timeline :=
    { fresh.write [fresh.startRecord period] with loop := .running period fresh.now }
  have starts : fresh.start plan period = running.tick plan := rfl
  have tracks : Tracks endpoints (timetable plan period 0) running :=
    (tracks_ofEndpoints endpoints).congr rfl rfl rfl rfl rfl
  rw [starts]
  refine ⟨OnTime.tick tracks ?_ (Nat.zero_le _) positive, now_tick plan running⟩
  rw [Nat.zero_mul]
  rfl

/-! ## With a shutdown -/

/-- The timeline of a fresh loop at a moment, when its shutdown is requested at `stopAt`. -/
def atMoment (endpoints : List Endpoint) (plan : FetchPlan) (period stopAt moment : Nat) :
    Timeline :=
  let started := (ofEndpoints endpoints).start plan period
  if moment < stopAt then started.advance plan moment
  else (started.advance plan stopAt).stop.advance plan moment

theorem Tracks.stop {begun : List Flight} (tracks : Tracks endpoints begun t) :
    Tracks endpoints begun t.stop := by
  unfold Timeline.stop
  simp only
  split <;> exact tracks.congr rfl rfl rfl rfl rfl

theorem idle_stop (t : Timeline) : Idle t.stop := by
  intro period next
  unfold Timeline.stop
  simp only
  split
  · exact LoopPhase.noConfusion
  · next other => exact other period next

theorem now_stop (t : Timeline) : t.stop.now = t.now := by
  unfold Timeline.stop
  simp only
  split <;> rfl

theorem tracks_atMoment (endpoints : List Endpoint) (plan : FetchPlan) {stopAt : Nat}
    (positive : 0 < period) (between : ¬ period ∣ stopAt) (moment : Nat) :
    ∃ n, (∀ k, k < n ↔ k * period < stopAt ∧ k * period ≤ moment) ∧
      Tracks endpoints (timetable plan period n) (atMoment endpoints plan period stopAt moment) ∧
      (atMoment endpoints plan period stopAt moment).now = moment := by
  obtain ⟨⟨_, onTime⟩, zero⟩ := exists_onTime_start endpoints plan positive
  have later (target : Nat) : ((ofEndpoints endpoints).start plan period).now ≤ target :=
    zero ▸ Nat.zero_le target
  unfold atMoment
  simp only
  split
  · next before =>
    obtain ⟨⟨n, onTime⟩, now⟩ := onTime.advance positive (later moment)
    refine ⟨n, fun k => ?_, onTime.tracks, now⟩
    rw [onTime.due_iff, now]
    omega
  · next after =>
    obtain ⟨⟨n, onTime⟩, now⟩ := onTime.advance positive (later stopAt)
    have later' : ((ofEndpoints endpoints).start plan period |>.advance plan stopAt).stop.now ≤
        moment := by
      rw [now_stop, now]
      omega
    obtain ⟨tracks, now'⟩ := onTime.tracks.stop.advance_idle (idle_stop _) later'
    refine ⟨n, fun k => ?_, tracks, now'⟩
    -- No cycle begins at the moment of the shutdown itself.
    have distinct : k * period ≠ stopAt := fun same =>
      between ⟨k, by rw [← same, Nat.mul_comm]⟩
    rw [onTime.due_iff, now]
    omega

/-! ## The statement -/

theorem loop_keeps_schedule (endpoints : List Endpoint) (plan : FetchPlan) {stopAt : Nat}
    (positive : 0 < period) (between : ¬ period ∣ stopAt) (moment : Nat) :
    (∃ n, (∀ k, k < n ↔ k * period < stopAt ∧ k * period ≤ moment) ∧
      (atMoment endpoints plan period stopAt moment).refresh.nextCycle = UInt64.ofNat n ∧
      (atMoment endpoints plan period stopAt moment).fetched =
        (List.range n).flatMap (fun k => (plan (UInt64.ofNat k)).map (·.1.name)) ∧
      (atMoment endpoints plan period stopAt moment).flights =
        ((List.range n).filter fun k => moment < k * period + plan.duration k).map
          (scheduled plan period)) ∧
    ((atMoment endpoints plan period stopAt moment).refresh.state = .refreshing ↔
      ∃ k, k * period < stopAt ∧ k * period ≤ moment ∧ moment < k * period + plan.duration k) ∧
    (stopAt ≤ UInt64.size * period →
      ((atMoment endpoints plan period stopAt moment).refresh.slot = none ↔
        ∀ k, k * period < stopAt → moment < k * period + plan.duration k) ∧
      ∀ p, (atMoment endpoints plan period stopAt moment).refresh.slot = some p →
        ∃ k, p.cycle.toNat = k ∧ k * period < stopAt ∧ k * period + plan.duration k ≤ moment ∧
          (∀ j, j * period < stopAt → j * period + plan.duration j ≤ moment → j ≤ k) ∧
          p.board = Board.aggregate endpoints ((plan p.cycle).map (·.2.outcome))) := by
  obtain ⟨n, due, tracks, now⟩ := tracks_atMoment endpoints plan positive between moment
  generalize atMoment endpoints plan period stopAt moment = s at tracks now
  -- A cycle that has ended has begun.
  have ended {k : Nat} (begins : k * period < stopAt)
      (ends : k * period + plan.duration k ≤ moment) : k < n := (due k).2 ⟨begins, by omega⟩
  refine ⟨⟨n, due, ?_, ?_, ?_⟩, ?_, fun bounded => ⟨?_, fun p held => ?_⟩⟩
  · rw [tracks.counter, timetable, List.length_map, List.length_range]
  · rw [tracks.fetched, timetable, List.flatMap_map]
    simp [scheduled, Poll.endpoints, Function.comp_def]
  · rw [tracks.flights, timetable, List.filter_map, now]
    rfl
  · rw [tracks.refreshing_iff, now]
    constructor
    · rintro ⟨f, member, polls⟩
      obtain ⟨k, begun, rfl⟩ := mem_timetable.1 member
      exact ⟨k, ((due k).1 begun).1, ((due k).1 begun).2, polls⟩
    · rintro ⟨k, before, begun, polls⟩
      exact ⟨_, mem_timetable.2 ⟨k, (due k).2 ⟨before, begun⟩, rfl⟩, polls⟩
  · rw [tracks.slot_eq_none_iff, now]
    constructor
    · intro all k before
      by_contra ends
      have begun := ended before (Nat.not_lt.1 ends)
      exact ends (all _ (mem_timetable.2 ⟨k, begun, rfl⟩))
    · intro all f member
      obtain ⟨k, begun, rfl⟩ := mem_timetable.1 member
      exact all k ((due k).1 begun).1
  · have number {k : Nat} (begun : k < n) : (UInt64.ofNat k).toNat = k := by
      have before := ((due k).1 begun).1
      exact UInt64.toNat_ofNat_of_lt' (Nat.lt_of_mul_lt_mul_right (Nat.lt_of_lt_of_le before bounded))
    obtain ⟨f, member, ends, cycle, board, newest⟩ := tracks.slot_eq_some held
    obtain ⟨k, begun, rfl⟩ := mem_timetable.1 member
    rw [now] at ends newest
    refine ⟨k, ?_, ((due k).1 begun).1, ends, fun j before ends => ?_, ?_⟩
    · rw [← cycle]
      exact number begun
    · have begun' := ended before ends
      have le := UInt64.le_iff_toNat_le.1 (newest _ (mem_timetable.2 ⟨j, begun', rfl⟩) ends)
      rw [← cycle] at le
      simpa only [scheduled, number begun, number begun'] using le
    · rw [board, ← cycle]
      rfl

/-- A first cycle of 45 ms, overtaken by three of 3 ms; the shutdown comes at 35 ms, and 5 ms later
the first still polls. -/
theorem loop_keeps_schedule_overtaken :
    let slow : FetchPlan := fun cycle =>
      [(⟨"A", "http://a"⟩, { result := .ok Report.empty, delay := if cycle = 0 then 45 else 3 })]
    let s := atMoment [⟨"A", "http://a"⟩] slow 10 35 40
    0 < 10 ∧ ¬ 10 ∣ 35 ∧ s.refresh.state = .refreshing ∧ s.refresh.nextCycle = 4 ∧
      ∃ p, s.refresh.slot = some p ∧ p.cycle = 3 := by
  intro slow s
  have positive : 0 < 10 := by decide
  have between : ¬ 10 ∣ 35 := by decide
  obtain ⟨⟨n, due, counter, -⟩, state, slot⟩ :=
    loop_keeps_schedule [⟨"A", "http://a"⟩] slow positive between 40
  obtain ⟨empty, holds⟩ := slot (by decide)
  have four : n = 4 := by
    have here := due 3
    have next := due 4
    omega
  refine ⟨positive, between, state.2 ⟨0, by decide, by decide, by decide⟩, by rw [counter, four]; rfl, ?_⟩
  cases held : s.refresh.slot with
  | none =>
    have early := empty.1 held 3 (by decide)
    exact absurd early (by decide)
  | some p =>
    obtain ⟨k, cycle, before, -, newest, -⟩ := holds p held
    have atLeast := newest 3 (by decide) (by decide)
    have three : k = 3 := by omega
    exact ⟨p, rfl, UInt64.toNat_inj.1 (cycle.trans three)⟩

end Timeline
end FleetWatch
