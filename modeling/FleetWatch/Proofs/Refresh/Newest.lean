import FleetWatch.Proofs.Refresh.Run

/-!
# The slot holds the newest completed cycle

Cycles overlap and land in any order.  Whatever the order, the slot holds the board of the landed
cycle with the greatest number, and a landing is accepted just when it is newer than all before it.

* `slot_holds_newest`: numbers, slot and answers in every reachable state; the slot never goes back,
  and what it holds is decided by which cycles have landed.
-/

namespace FleetWatch.RefreshRun

/-! ## What is to hold -/

/-- The slot is that of the newest landing, with the board of its own fetches. -/
def HoldsNewest (endpoints : List Endpoint) (slot : Slot) (landings : List Landing) : Prop :=
  (slot = none ↔ landings = []) ∧
  ∀ p, slot = some p → ∃ l ∈ landings, l.cycle = p.cycle ∧ p.board = l.board endpoints ∧
    ∀ other ∈ landings, other.cycle ≤ p.cycle

/-- Accepted are the maxima of the landings, from the left to the right. -/
def AcceptsMaxima : List Landing → Prop :=
  AtEachLanding fun before l => l.accepted = true ↔ ∀ earlier ∈ before, earlier.cycle < l.cycle

/-- The landed cycles, each with what its own fetches gave. -/
def completed (s : RefreshRun) : List (UInt64 × List Outcome) :=
  s.landings.map fun l => (l.cycle, l.flight.poll.outcomes)

/-- What a slot shows, whenever it was published. -/
def content (slot : Slot) : Option (UInt64 × Board) := slot.map fun p => (p.cycle, p.board)

/-! ## One landing -/

theorem accepts_iff {endpoints : List Endpoint} {slot : Slot} {landings : List Landing}
    (holds : HoldsNewest endpoints slot landings) (cycle : UInt64) :
    slot.accepts cycle = true ↔ ∀ l ∈ landings, l.cycle < cycle := by
  cases slot with
  | none => simp [Slot.accepts, holds.1.1 rfl]
  | some p =>
    obtain ⟨l, member, same, -, newest⟩ := holds.2 p rfl
    simp only [Slot.accepts, decide_eq_true_eq]
    constructor
    · intro newer other otherMember
      exact UInt64.lt_of_le_of_lt (newest other otherMember) newer
    · intro all
      rw [← same]
      exact all l member

theorem HoldsNewest.accept {endpoints : List Endpoint} {landings : List Landing}
    {l : Landing} (all : ∀ other ∈ landings, other.cycle < l.cycle) (now : Instant) :
    HoldsNewest endpoints (some ⟨l.cycle, now, l.board endpoints⟩) (landings ++ [l]) := by
  refine ⟨by simp, ?_⟩
  intro p held
  cases held
  refine ⟨l, by simp, rfl, rfl, ?_⟩
  intro other member
  rcases List.mem_append.1 member with old | new
  · exact UInt64.le_of_lt (all other old)
  · rw [List.mem_singleton.1 new]
    exact UInt64.le_refl _

theorem HoldsNewest.refuse {endpoints : List Endpoint} {slot : Slot} {landings : List Landing}
    (holds : HoldsNewest endpoints slot landings) {l : Landing}
    (refused : slot.accepts l.cycle = false) :
    HoldsNewest endpoints slot (landings ++ [l]) := by
  cases slot with
  | none => cases refused
  | some p =>
    obtain ⟨winner, member, same, shown, newest⟩ := holds.2 p rfl
    refine ⟨by simp, ?_⟩
    intro q held
    cases held
    refine ⟨winner, List.mem_append_left _ member, same, shown, ?_⟩
    intro other otherMember
    rcases List.mem_append.1 otherMember with old | new
    · exact newest other old
    · rw [List.mem_singleton.1 new]
      simpa [Slot.accepts] using refused

theorem holdsNewest_land {endpoints : List Endpoint} {s : RefreshRun}
    (consistent : Consistent endpoints s)
    (holds : HoldsNewest endpoints s.refresh.slot s.landings) (place : Nat) (f : Flight)
    (now : Instant) :
    HoldsNewest endpoints (s.land place f now).refresh.slot (s.land place f now).landings := by
  rw [refresh_land]
  cases accepts : s.refresh.slot.accepts f.cycle with
  | true =>
    rw [if_pos rfl, consistent.registry]
    exact HoldsNewest.accept (l := s.landing f now) ((accepts_iff holds f.cycle).1 accepts) now
  | false => exact holds.refuse (l := s.landing f now) accepts

theorem acceptsMaxima_land {endpoints : List Endpoint} {s : RefreshRun}
    (holds : HoldsNewest endpoints s.refresh.slot s.landings) (maxima : AcceptsMaxima s.landings)
    (place : Nat) (f : Flight) (now : Instant) :
    AcceptsMaxima (s.land place f now).landings := by
  apply maxima.concat
  rw [accepted_landing]
  exact accepts_iff holds f.cycle

/-! ## Every run -/

theorem Reachable.newest {endpoints : List Endpoint} {s : RefreshRun}
    (reachable : Reachable endpoints s) :
    HoldsNewest endpoints s.refresh.slot s.landings ∧ AcceptsMaxima s.landings := by
  induction reachable with
  | refl => simp [fresh, HoldsNewest, AcceptsMaxima, AtEachLanding]
  | tail steps step ih =>
    cases step with
    | begin aligned => exact ih
    | @land place f aloft now =>
      exact ⟨holdsNewest_land (Reachable.consistent steps) ih.1 place f now,
        acceptsMaxima_land ih.1 ih.2 place f now⟩
    | abandon aloft => exact ih

theorem AcceptsMaxima.increasing {landings : List Landing} (maxima : AcceptsMaxima landings) :
    ((landings.filter (·.accepted)).map (·.cycle)).Pairwise (· < ·) := by
  have ordered : landings.Pairwise fun a b => b.accepted = true → a.cycle < b.cycle := by
    rw [List.pairwise_iff_getElem]
    intro i j hi hj lt accepted
    have split : landings = landings.take j ++ landings[j] :: landings.drop (j + 1) := by
      rw [← List.drop_eq_getElem_cons hj, List.take_append_drop]
    exact (maxima _ _ _ split).1 accepted _ (List.mem_take_iff_getElem.2 ⟨i, by omega, rfl⟩)
  rw [List.pairwise_map]
  refine (ordered.filter _).imp_of_mem ?_
  intro a b _ member before
  exact before (List.mem_filter.1 member).2

theorem Consistent.toNat_cycle {endpoints : List Endpoint} {s : RefreshRun}
    (c : Consistent endpoints s) (bounded : s.begun.length ≤ UInt64.size) {k : Nat} {f : Flight}
    (found : s.begun[k]? = some f) : f.cycle.toNat = k := by
  have below : k < s.begun.length := (List.getElem?_eq_some_iff.1 found).1
  rw [c.numbered k f found]
  exact UInt64.toNat_ofNat_of_lt' (by omega)

theorem Consistent.begun_cycle {endpoints : List Endpoint} {s : RefreshRun}
    (c : Consistent endpoints s) (bounded : s.begun.length ≤ UInt64.size) {f : Flight}
    (member : f ∈ s.begun) : s.begun[f.cycle.toNat]? = some f := by
  obtain ⟨k, found⟩ := List.getElem?_of_mem member
  rw [c.toNat_cycle bounded found]
  exact found

theorem Consistent.flight_eq {endpoints : List Endpoint} {s : RefreshRun}
    (c : Consistent endpoints s) (bounded : s.begun.length ≤ UInt64.size) {l m : Landing}
    (hl : l ∈ s.landings) (hm : m ∈ s.landings) (same : l.cycle = m.cycle) :
    l.flight = m.flight := by
  have left := c.begun_cycle bounded (c.landed l hl)
  have right := c.begun_cycle bounded (c.landed m hm)
  rw [show l.flight.cycle = m.flight.cycle from same, right] at left
  exact (Option.some.inj left).symm

theorem Step.slot_mono {s s' : RefreshRun} (step : Step s s') {p : Published}
    (held : s.refresh.slot = some p) :
    ∃ q, s'.refresh.slot = some q ∧ p.cycle ≤ q.cycle ∧ (p.cycle = q.cycle → p = q) := by
  cases step with
  | begin aligned => exact ⟨p, held, UInt64.le_refl _, fun _ => rfl⟩
  | @land place f aloft now =>
    rw [refresh_land]
    cases accepts : s.refresh.slot.accepts f.cycle with
    | true =>
      have newer : p.cycle < f.cycle := by simpa [held, Slot.accepts] using accepts
      exact ⟨_, rfl, UInt64.le_of_lt newer, fun same => absurd same (UInt64.ne_of_lt newer)⟩
    | false => exact ⟨p, held, UInt64.le_refl _, fun _ => rfl⟩
  | abandon aloft => exact ⟨p, held, UInt64.le_refl _, fun _ => rfl⟩

theorem Steps.slot_mono {s s' : RefreshRun} (steps : Steps s s') {p : Published}
    (held : s.refresh.slot = some p) :
    ∃ q, s'.refresh.slot = some q ∧ p.cycle ≤ q.cycle ∧ (p.cycle = q.cycle → p = q) := by
  induction steps with
  | refl => exact ⟨p, held, UInt64.le_refl _, fun _ => rfl⟩
  | tail _ step ih =>
    obtain ⟨q, held', le, same⟩ := ih
    obtain ⟨r, held'', le', same'⟩ := step.slot_mono held'
    refine ⟨r, held'', UInt64.le_trans le le', fun eq => ?_⟩
    have middle : p.cycle = q.cycle := UInt64.le_antisymm le (eq ▸ le')
    exact (same middle).trans (same' (middle ▸ eq))

/-! ## The order of the landings -/

theorem mem_completed {s : RefreshRun} {cycle : UInt64} {outcomes : List Outcome} :
    (cycle, outcomes) ∈ s.completed ↔
      ∃ l ∈ s.landings, l.cycle = cycle ∧ l.flight.poll.outcomes = outcomes := by
  simp [completed]

theorem content_le {endpoints : List Endpoint} {s s' : RefreshRun}
    (reachable : Reachable endpoints s) (reachable' : Reachable endpoints s')
    (within : ∀ c ∈ s.completed, c ∈ s'.completed) {p q : Published}
    (held : s.refresh.slot = some p) (held' : s'.refresh.slot = some q) : p.cycle ≤ q.cycle := by
  obtain ⟨l, member, same, -, -⟩ := reachable.newest.1.2 p held
  obtain ⟨-, -, -, -, newest⟩ := reachable'.newest.1.2 q held'
  obtain ⟨m, member', same', -⟩ := mem_completed.1 (within _ (mem_completed.2 ⟨l, member, same, rfl⟩))
  rw [← same']
  exact newest m member'

theorem content_eq {endpoints : List Endpoint} {s s' : RefreshRun}
    (reachable : Reachable endpoints s) (reachable' : Reachable endpoints s')
    (bounded' : s'.begun.length ≤ UInt64.size)
    (same : ∀ c, c ∈ s.completed ↔ c ∈ s'.completed) :
    content s.refresh.slot = content s'.refresh.slot := by
  cases held : s.refresh.slot with
  | none =>
    have empty : s.completed = [] := by simp [completed, reachable.newest.1.1.1 held]
    have empty' : s'.completed = [] := List.eq_nil_iff_forall_not_mem.2 fun c member => by
      simpa [empty] using (same c).2 member
    rw [reachable'.newest.1.1.2 (List.map_eq_nil_iff.1 empty')]
  | some p =>
    obtain ⟨l, member, number, shown, -⟩ := reachable.newest.1.2 p held
    obtain ⟨m, member', number', outcomes⟩ :=
      mem_completed.1 ((same _).1 (mem_completed.2 ⟨l, member, rfl, rfl⟩))
    cases held' : s'.refresh.slot with
    | none => simp [reachable'.newest.1.1.1 held'] at member'
    | some q =>
      have cycles : p.cycle = q.cycle := UInt64.le_antisymm
        (content_le reachable reachable' (fun c => (same c).1) held held')
        (content_le reachable' reachable (fun c => (same c).2) held' held)
      obtain ⟨w, winner, wins, shown', -⟩ := reachable'.newest.1.2 q held'
      -- In the other run the number is that of one cycle only, so its fetches are the same.
      have flights : m.flight = w.flight := reachable'.consistent.flight_eq bounded' member' winner
        (by rw [number', number, cycles, wins])
      simp only [content, Option.map_some, cycles, shown, shown', Landing.board, ← flights, outcomes]

/-! ## The statement -/

theorem slot_holds_newest {endpoints : List Endpoint} {s : RefreshRun}
    (reachable : Reachable endpoints s) (bounded : s.begun.length ≤ UInt64.size) :
    (∀ (k : Nat) (f : Flight), s.begun[k]? = some f → f.cycle.toNat = k) ∧
    (s.refresh.slot = none ↔ s.landings = []) ∧
    (∀ p, s.refresh.slot = some p → ∃ l ∈ s.landings,
      s.begun[p.cycle.toNat]? = some l.flight ∧
      p.board = Board.aggregate endpoints l.flight.poll.outcomes ∧
      ∀ other ∈ s.landings, other.cycle ≤ p.cycle) ∧
    (∀ before l after, s.landings = before ++ l :: after →
      (l.accepted = true ↔ ∀ earlier ∈ before, earlier.cycle < l.cycle)) ∧
    ((s.landings.filter (·.accepted)).map (·.cycle)).Pairwise (· < ·) ∧
    (∀ s', Steps s s' → ∀ p, s.refresh.slot = some p → ∃ q, s'.refresh.slot = some q ∧
      p.cycle ≤ q.cycle ∧ (p.cycle = q.cycle → p = q)) ∧
    (∀ s', Reachable endpoints s' → (∀ c, c ∈ s'.completed ↔ c ∈ s.completed) →
      content s'.refresh.slot = content s.refresh.slot) := by
  have consistent := reachable.consistent
  obtain ⟨holds, maxima⟩ := reachable.newest
  refine ⟨fun k f found => consistent.toNat_cycle bounded found, holds.1, ?_, maxima,
    maxima.increasing, fun s' steps p held => steps.slot_mono held,
    fun s' reachable' same => content_eq reachable' reachable bounded same⟩
  intro p held
  obtain ⟨l, member, same, shown, newest⟩ := holds.2 p held
  refine ⟨l, member, ?_, shown, newest⟩
  rw [← same]
  exact consistent.begun_cycle bounded (consistent.landed l member)

/-- Cycle 1 lands while cycle 0 still polls, which is refused when it lands; cycle 2 is abandoned. -/
theorem slot_holds_newest_overtaken :
    ∃ s : RefreshRun, Reachable [⟨"A", "http://a"⟩] s ∧ s.begun.length ≤ UInt64.size ∧
      s.landings.map (·.accepted) = [true, false] ∧ s.refresh.slot.map (·.cycle) = some 1 ∧
      ∀ p, s.refresh.slot = some p → ∃ l ∈ s.landings,
        s.begun[p.cycle.toNat]? = some l.flight ∧
        p.board = Board.aggregate [⟨"A", "http://a"⟩] l.flight.poll.outcomes ∧
        ∀ other ∈ s.landings, other.cycle ≤ p.cycle := by
  let a : Endpoint := ⟨"A", "http://a"⟩
  let up : Poll := ⟨0, [(a, { result := .ok Report.empty })]⟩
  let down : Poll := ⟨0, [(a, { result := .error (.network "A" "connection refused") })]⟩
  let three := (((fresh [a]).begin up).begin down).begin up
  have begun : Reachable [a] three := .tail (.tail (.tail .refl (.begin rfl)) (.begin rfl)) (.begin rfl)
  have landed := Relation.ReflTransGen.tail (.tail begun (@Step.land _ 1 _ rfl ⟨5, 0⟩))
    (@Step.land _ 0 _ rfl ⟨9, 0⟩)
  have ended := landed.tail (@Step.abandon _ 0 _ rfl)
  exact ⟨_, ended, by decide, rfl, rfl, (slot_holds_newest ended (by decide)).2.2.1⟩

end FleetWatch.RefreshRun
