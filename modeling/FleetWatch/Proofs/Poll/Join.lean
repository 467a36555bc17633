import FleetWatch.Fleet.Poll
import FleetWatch.Proofs.Board.Blocks
import Mathlib.Logic.Relation
import Mathlib.Tactic.ByContra

/-!
# The join of a poll

A poll as it goes: it issues its fetches in the order of the endpoints and waits for none before all
are issued.  Then the fetches that are due end, in any order, and each fills its own place.  Time
passes only while something is waited for, and never beyond the moment at which a fetch is due.

* `Reachable.account`: calls, places and clock in every reachable state.
* `progress`, `Reachable.exists_complete`: a join is never stuck and always ends.
* `join_outcomes`: what it gives and when, and that no position sees another.
-/

namespace FleetWatch

/-- The endpoints fetched from so far, and what each fetch has given, if it has ended. -/
structure Join where
  now : Nat
  calls : List Endpoint := []
  places : List (Option Outcome) := []

namespace Join

def begin (p : Poll) : Join := { now := p.startedAt }

def result? (p : Poll) (s : Join) : Option (List Outcome) :=
  if s.places.length = p.fetches.length ∧ s.places.all Option.isSome then
    some (s.places.filterMap id)
  else none

inductive Step (p : Poll) : Join → Join → Prop
  | issue {s : Join} {e : Endpoint} {f : Fetch}
      (next : p.fetches[s.places.length]? = some (e, f)) :
      Step p s { s with calls := s.calls ++ [e], places := s.places ++ [none] }
  | resolve {s : Join} {i : Nat} {e : Endpoint} {f : Fetch} (fetch : p.fetches[i]? = some (e, f))
      (pending : s.places[i]? = some none) (due : p.startedAt + f.delay ≤ s.now) :
      Step p s { s with places := s.places.set i (some f.outcome) }
  | wait {s : Join} {later : Nat} (ahead : s.now < later)
      (issued : s.places.length = p.fetches.length) (waiting : none ∈ s.places)
      (undue : ∀ (i : Nat) (e : Endpoint) (f : Fetch), p.fetches[i]? = some (e, f) →
        s.places[i]? = some none → later ≤ p.startedAt + f.delay) :
      Step p s { s with now := later }

abbrev Steps (p : Poll) : Join → Join → Prop := Relation.ReflTransGen (Step p)

def Reachable (p : Poll) (s : Join) : Prop := Steps p (begin p) s

/-! ## The slowest fetch -/

theorem duration_eq (p : Poll) : p.duration = (p.fetches.map (·.2.delay)).max?.getD 0 := by
  unfold Poll.duration
  cases p.fetches.map (·.2.delay) with
  | nil => rfl
  | cons d ds => rw [List.max?_cons', Option.getD_some, List.foldl_cons, Nat.zero_max]

theorem due_le_endsAt {p : Poll} {i : Nat} {e : Endpoint} {f : Fetch}
    (fetch : p.fetches[i]? = some (e, f)) : p.startedAt + f.delay ≤ p.endsAt := by
  have member : f.delay ∈ p.fetches.map (·.2.delay) :=
    List.mem_map.2 ⟨(e, f), List.mem_of_getElem? fetch, rfl⟩
  rw [Poll.endsAt, duration_eq]
  cases slowest : (p.fetches.map (·.2.delay)).max? with
  | none => simp [List.max?_eq_none_iff.1 slowest] at member
  | some d =>
    have le := (List.max?_eq_some_iff.1 slowest).2 _ member
    simpa using le

theorem endsAt_le {p : Poll} {moment : Nat} (begun : p.startedAt ≤ moment)
    (all : ∀ (i : Nat) (e : Endpoint) (f : Fetch), p.fetches[i]? = some (e, f) →
      p.startedAt + f.delay ≤ moment) :
    p.endsAt ≤ moment := by
  rw [Poll.endsAt, duration_eq]
  cases slowest : (p.fetches.map (·.2.delay)).max? with
  | none => exact begun
  | some d =>
    obtain ⟨⟨e, f⟩, member, rfl⟩ := List.mem_map.1 (List.max?_mem slowest)
    obtain ⟨i, fetch⟩ := List.getElem?_of_mem member
    exact all i e f fetch

/-! ## The account of a join -/

structure Account (p : Poll) (s : Join) : Prop where
  issued : s.places.length ≤ p.fetches.length
  calls : s.calls = p.endpoints.take s.places.length
  begun : p.startedAt ≤ s.now
  within : s.now ≤ p.endsAt
  prompt : s.places.length < p.fetches.length → s.now = p.startedAt
  undue : ∀ (i : Nat) (e : Endpoint) (f : Fetch), p.fetches[i]? = some (e, f) →
    s.places[i]? = some none → s.now ≤ p.startedAt + f.delay
  ended : ∀ (i : Nat) (e : Endpoint) (f : Fetch) (o : Outcome), p.fetches[i]? = some (e, f) →
    s.places[i]? = some (some o) → o = f.outcome ∧ p.startedAt + f.delay ≤ s.now

theorem account_begin (p : Poll) : Account p (begin p) where
  issued := Nat.zero_le _
  calls := rfl
  begun := Nat.le_refl _
  within := Nat.le_add_right _ _
  prompt := fun _ => rfl
  undue := by simp [begin]
  ended := by simp [begin]

theorem Account.issue {p : Poll} {s : Join} (a : Account p s) {e : Endpoint} {f : Fetch}
    (next : p.fetches[s.places.length]? = some (e, f)) :
    Account p { s with calls := s.calls ++ [e], places := s.places ++ [none] } where
  issued := by
    have bound := (List.getElem?_eq_some_iff.1 next).1
    simpa using Nat.succ_le_of_lt bound
  calls := by
    have called : p.endpoints[s.places.length]? = some e := by simp [Poll.endpoints, next]
    rw [List.length_append, List.length_singleton, List.take_add_one, called, a.calls]
    rfl
  begun := a.begun
  within := a.within
  prompt := fun _ => a.prompt (List.getElem?_eq_some_iff.1 next).1
  undue := by
    intro i e' f' fetch pending
    rcases Nat.lt_or_ge i s.places.length with old | new
    · rw [List.getElem?_append_left old] at pending
      exact a.undue i e' f' fetch pending
    · rw [show s.now = p.startedAt from a.prompt (List.getElem?_eq_some_iff.1 next).1]
      exact Nat.le_add_right _ _
  ended := by
    intro i e' f' o fetch ended
    rcases Nat.lt_or_ge i s.places.length with old | new
    · rw [List.getElem?_append_left old] at ended
      exact a.ended i e' f' o fetch ended
    · rw [List.getElem?_append_right new] at ended
      have found := List.mem_of_getElem? ended
      simp at found

theorem Account.resolve {p : Poll} {s : Join} (a : Account p s) {i : Nat} {e : Endpoint} {f : Fetch}
    (fetch : p.fetches[i]? = some (e, f)) (due : p.startedAt + f.delay ≤ s.now) :
    Account p { s with places := s.places.set i (some f.outcome) } where
  issued := by simpa using a.issued
  calls := by simpa using a.calls
  begun := a.begun
  within := a.within
  prompt := by simpa using a.prompt
  undue := by
    intro j e' f' fetch' pending
    by_cases here : i = j
    · simp [here, List.getElem?_set] at pending
    · rw [List.getElem?_set_ne here] at pending
      exact a.undue j e' f' fetch' pending
  ended := by
    intro j e' f' o fetch' ended
    by_cases here : i = j
    · subst here
      cases fetch.symm.trans fetch'
      have bound : i < s.places.length := by
        simpa using (List.getElem?_eq_some_iff.1 ended).1
      rw [List.getElem?_set_self bound] at ended
      cases ended
      exact ⟨rfl, due⟩
    · rw [List.getElem?_set_ne here] at ended
      exact a.ended j e' f' o fetch' ended

theorem Account.wait {p : Poll} {s : Join} (a : Account p s) {later : Nat} (ahead : s.now < later)
    (issued : s.places.length = p.fetches.length) (waiting : none ∈ s.places)
    (undue : ∀ (i : Nat) (e : Endpoint) (f : Fetch), p.fetches[i]? = some (e, f) →
      s.places[i]? = some none → later ≤ p.startedAt + f.delay) :
    Account p { s with now := later } where
  issued := a.issued
  calls := a.calls
  begun := Nat.le_trans a.begun (Nat.le_of_lt ahead)
  within := by
    obtain ⟨i, pending⟩ := List.getElem?_of_mem waiting
    have bound : i < p.fetches.length := issued ▸ (List.getElem?_eq_some_iff.1 pending).1
    have fetch := List.getElem?_eq_getElem bound
    exact Nat.le_trans (undue i _ _ fetch pending) (due_le_endsAt fetch)
  prompt := fun short => absurd issued (Nat.ne_of_lt short)
  undue := undue
  ended := by
    intro i e f o fetch ended
    obtain ⟨same, due⟩ := a.ended i e f o fetch ended
    exact ⟨same, Nat.le_trans due (Nat.le_of_lt ahead)⟩

theorem Account.step {p : Poll} {s s' : Join} (a : Account p s) (step : Step p s s') :
    Account p s' := by
  cases step with
  | issue next => exact a.issue next
  | resolve fetch _ due => exact a.resolve fetch due
  | wait ahead issued waiting undue => exact a.wait ahead issued waiting undue

theorem Reachable.account {p : Poll} {s : Join} (reachable : Reachable p s) : Account p s := by
  induction reachable with
  | refl => exact account_begin p
  | tail _ step ih => exact ih.step step

/-! ## The end of a join -/

theorem map_some_filterMap_id {α : Type} {xs : List (Option α)} (filled : xs.all Option.isSome) :
    (xs.filterMap id).map some = xs := by
  induction xs with
  | nil => rfl
  | cons x xs ih =>
    cases x with
    | none => simp at filled
    | some x => simpa using ih (by simpa using filled)

theorem result?_eq_some {p : Poll} {s : Join} {os : List Outcome} :
    s.result? p = some os ↔ s.places.length = p.fetches.length ∧ s.places = os.map some := by
  unfold result?
  constructor
  · intro result
    split at result
    · rename_i done
      cases result
      exact ⟨done.1, (map_some_filterMap_id done.2).symm⟩
    · cases result
  · rintro ⟨issued, places⟩
    rw [if_pos ⟨issued, by simp [places]⟩, places]
    simp

theorem isSome_result? {p : Poll} {s : Join} :
    (s.result? p).isSome ↔ s.places.length = p.fetches.length ∧ none ∉ s.places := by
  unfold result?
  have filled : s.places.all Option.isSome ↔ none ∉ s.places := by
    rw [List.all_eq_true]
    constructor
    · intro all member
      cases all none member
    · intro absent x member
      cases x with
      | none => exact absurd member absent
      | some o => rfl
  rw [← filled]
  by_cases done : s.places.length = p.fetches.length ∧ s.places.all Option.isSome <;> simp [done]

theorem Account.isSome_iff {p : Poll} {s : Join} (a : Account p s) :
    (s.result? p).isSome ↔ ∀ i < p.fetches.length, ∃ o, s.places[i]? = some (some o) := by
  constructor
  · intro done i bound
    obtain ⟨os, result⟩ := Option.isSome_iff_exists.1 done
    obtain ⟨issued, places⟩ := result?_eq_some.1 result
    have bound' : i < os.length := by simpa [places, ← issued] using bound
    exact ⟨os[i], by simp [places, bound']⟩
  · intro all
    refine isSome_result?.2 ⟨Nat.le_antisymm a.issued ?_, ?_⟩
    · by_contra short
      obtain ⟨o, place⟩ := all s.places.length (by omega)
      exact absurd (List.getElem?_eq_some_iff.1 place).1 (Nat.lt_irrefl _)
    · intro member
      obtain ⟨i, pending⟩ := List.getElem?_of_mem member
      have bound := Nat.lt_of_lt_of_le (List.getElem?_eq_some_iff.1 pending).1 a.issued
      obtain ⟨o, place⟩ := all i bound
      rw [pending] at place
      cases place

theorem Account.complete {p : Poll} {s : Join} (a : Account p s) {os : List Outcome}
    (result : s.result? p = some os) :
    s.calls = p.endpoints ∧ s.now = p.endsAt ∧ os = p.outcomes := by
  obtain ⟨issued, places⟩ := result?_eq_some.1 result
  have length : os.length = p.fetches.length := by simpa [places] using issued
  have ended : ∀ (i : Nat) (e : Endpoint) (f : Fetch), p.fetches[i]? = some (e, f) →
      os[i]? = some f.outcome ∧ p.startedAt + f.delay ≤ s.now := by
    intro i e f fetch
    have bound : i < os.length := length ▸ (List.getElem?_eq_some_iff.1 fetch).1
    have place : s.places[i]? = some (some os[i]) := by simp [places, bound]
    obtain ⟨same, due⟩ := a.ended i e f _ fetch place
    exact ⟨by rw [List.getElem?_eq_getElem bound, same], due⟩
  refine ⟨?_, ?_, ?_⟩
  · rw [a.calls, issued]
    exact List.take_of_length_le (by simp [Poll.endpoints])
  · exact Nat.le_antisymm a.within (endsAt_le a.begun fun i e f fetch => (ended i e f fetch).2)
  · apply List.ext_getElem?
    intro i
    cases fetch : p.fetches[i]? with
    | none =>
      have beyond := List.getElem?_eq_none_iff.1 fetch
      simp [Poll.outcomes, length, beyond]
    | some pair => simpa [Poll.outcomes, fetch] using (ended i pair.1 pair.2 fetch).1

/-! ## Every join ends -/

theorem progress {p : Poll} {s : Join} (a : Account p s) (running : s.result? p = none) :
    ∃ s', Step p s s' := by
  rcases Nat.lt_or_ge s.places.length p.fetches.length with short | all
  · exact ⟨_, .issue (List.getElem?_eq_getElem short)⟩
  · have issued := Nat.le_antisymm a.issued all
    have waiting : none ∈ s.places := by
      by_contra filled
      have done := isSome_result?.2 ⟨issued, filled⟩
      simp [running] at done
    by_cases due : ∃ (i : Nat) (e : Endpoint) (f : Fetch), p.fetches[i]? = some (e, f) ∧
        s.places[i]? = some none ∧ p.startedAt + f.delay ≤ s.now
    · obtain ⟨i, e, f, fetch, pending, due⟩ := due
      exact ⟨_, .resolve fetch pending due⟩
    · refine ⟨_, .wait (Nat.lt_succ_self s.now) issued waiting ?_⟩
      intro i e f fetch pending
      by_contra early
      exact due ⟨i, e, f, fetch, pending, by omega⟩

def remaining (p : Poll) (s : Join) : Nat :=
  2 * (p.fetches.length - s.places.length) + s.places.countP Option.isNone + (p.endsAt - s.now)

theorem remaining_lt {p : Poll} {s s' : Join} (a : Account p s) (step : Step p s s') :
    remaining p s' < remaining p s := by
  cases step with
  | issue next =>
    have bound := (List.getElem?_eq_some_iff.1 next).1
    simp only [remaining, List.length_append, List.length_singleton, List.countP_append,
      List.countP_singleton, Option.isNone_none, if_true]
    omega
  | @resolve i e f fetch pending due =>
    obtain ⟨bound, place⟩ := List.getElem?_eq_some_iff.1 pending
    have counted : 0 < s.places.countP Option.isNone :=
      List.countP_pos_iff.2 ⟨none, List.mem_of_getElem? pending, rfl⟩
    simp only [remaining, List.length_set, List.countP_set bound, place, Option.isNone_none,
      Option.isNone_some, if_true, Bool.false_eq_true, if_false]
    omega
  | wait ahead issued waiting undue =>
    have within := (a.wait ahead issued waiting undue).within
    simp only [remaining] at within ⊢
    omega

theorem Reachable.exists_complete {p : Poll} {s : Join} (reachable : Reachable p s) :
    ∃ s', Steps p s s' ∧ (s'.result? p).isSome := by
  induction left : remaining p s using Nat.strongRecOn generalizing s with
  | ind n ih =>
    cases result : s.result? p with
    | some os => exact ⟨s, .refl, by simp [result]⟩
    | none =>
      obtain ⟨next, step⟩ := progress reachable.account result
      have less : remaining p next < n := left ▸ remaining_lt reachable.account step
      obtain ⟨s', steps, done⟩ := ih _ less (Relation.ReflTransGen.tail reachable step) rfl
      exact ⟨s', .head step steps, done⟩

/-! ## One position -/

theorem outcome_getElem? {p : Poll} {i : Nat} {e : Endpoint} {f : Fetch}
    (fetch : p.fetches[i]? = some (e, f)) :
    p.endpoints[i]? = some e ∧ p.outcomes[i]? = some f.outcome := by
  simp [Poll.endpoints, Poll.outcomes, fetch]

theorem aligned (p : Poll) : p.endpoints.length = p.outcomes.length := by
  simp [Poll.endpoints, Poll.outcomes]

theorem shown_at {p : Poll} {i : Nat} {e : Endpoint} {f : Fetch}
    (fetch : p.fetches[i]? = some (e, f)) :
    (Board.aggregate p.endpoints p.outcomes).cards[i]? = some (Board.card e f.outcome) ∧
      Board.block p.endpoints p.outcomes i = Board.rowsOf e f.outcome := by
  obtain ⟨endpoint, outcome⟩ := outcome_getElem? fetch
  exact ⟨Board.cards_getElem? endpoint outcome, Board.block_eq (aligned p) endpoint outcome⟩

theorem join_outcomes {p : Poll} {s : Join} (reachable : Reachable p s) :
    s.calls = p.endpoints.take s.places.length ∧
    ((s.result? p).isSome ↔ ∀ i < p.fetches.length, ∃ o, s.places[i]? = some (some o)) ∧
    (s.result? p = none → ∃ s', Step p s s') ∧
    (∃ s', Steps p s s' ∧ (s'.result? p).isSome) ∧
    ∀ os, s.result? p = some os →
      s.calls = p.endpoints ∧
      s.now = p.startedAt + (p.fetches.map (·.2.delay)).max?.getD 0 ∧
      os = p.outcomes ∧
      os.length = p.endpoints.length ∧
      (Board.aggregate p.endpoints os).rows =
        (List.range p.endpoints.length).flatMap (Board.block p.endpoints os) ∧
      ∀ (i : Nat) (e : Endpoint) (f : Fetch), p.fetches[i]? = some (e, f) →
        (∀ report, f.result = .ok report → os[i]? = some (some report)) ∧
        (∀ error, f.result = .error error → os[i]? = some none) ∧
        Board.block p.endpoints os i = Board.rowsOf e f.outcome ∧
        ∀ (q : Poll) (t : Join) (os' : List Outcome) (f' : Fetch), Reachable q t →
          t.result? q = some os' → q.fetches[i]? = some (e, f') → f'.result = f.result →
          (Board.aggregate q.endpoints os').cards[i]? = (Board.aggregate p.endpoints os).cards[i]? ∧
          Board.block q.endpoints os' i = Board.block p.endpoints os i := by
  have account := reachable.account
  refine ⟨account.calls, account.isSome_iff, progress account, reachable.exists_complete, ?_⟩
  intro os result
  obtain ⟨calls, now, rfl⟩ := account.complete result
  refine ⟨calls, by rw [now, Poll.endsAt, duration_eq], rfl, (aligned p).symm,
    Board.rows_eq_blocks (aligned p), ?_⟩
  intro i e f fetch
  obtain ⟨card, block⟩ := shown_at fetch
  refine ⟨?_, ?_, block, ?_⟩
  · intro report ok
    rw [(outcome_getElem? fetch).2, Fetch.outcome, ok]
    rfl
  · intro error failed
    rw [(outcome_getElem? fetch).2, Fetch.outcome, failed]
    rfl
  · intro q t os' f' reachable' result' fetch' same
    obtain ⟨-, -, rfl⟩ := reachable'.account.complete result'
    obtain ⟨card', block'⟩ := shown_at fetch'
    have outcome : f'.outcome = f.outcome := congrArg Except.toOption same
    exact ⟨by rw [card', card, outcome], by rw [block', block, outcome]⟩

/-- Two endpoints of one name and two polls that differ in the second; there it ends before the
first, once badly and at once, once well and at the same moment. -/
theorem join_outcomes_same_names :
    ∃ (p q : Poll) (s t : Join), Reachable p s ∧ Reachable q t ∧
      q.endpoints = p.endpoints ∧ p.endpoints = [⟨"A", "http://a"⟩, ⟨"A", "http://b"⟩] ∧
      s.result? p = some [some Report.empty, none] ∧
      t.result? q = some [some Report.empty, some Report.empty] ∧ s.now = 120 ∧ t.now = 120 ∧
      (Board.aggregate q.endpoints [some Report.empty, some Report.empty]).cards[0]? =
        (Board.aggregate p.endpoints [some Report.empty, none]).cards[0]? ∧
      Board.block q.endpoints [some Report.empty, some Report.empty] 0 =
        Board.block p.endpoints [some Report.empty, none] 0 := by
  let a : Endpoint := ⟨"A", "http://a"⟩
  let b : Endpoint := ⟨"A", "http://b"⟩
  let slow : Fetch := { result := .ok Report.empty, delay := 120 }
  let failing : Fetch := { result := .error (.timeout "A" 5000) }
  let p : Poll := ⟨0, [(a, slow), (b, failing)]⟩
  let q : Poll := ⟨0, [(a, slow), (b, slow)]⟩
  have waits : Reachable p ⟨120, [a, b], [none, some none]⟩ := by
    refine .tail (.tail (.tail (.tail .refl (.issue rfl)) (.issue rfl))
      (@Step.resolve _ _ 1 b failing rfl rfl (Nat.le_refl 0)))
      (.wait (by decide : 0 < 120) rfl (by decide) ?_)
    intro i e f fetch pending
    match i with
    | 0 => cases fetch; exact Nat.le_refl 120
    | 1 => cases pending
    | i + 2 => cases fetch
  have waits' : Reachable q ⟨120, [a, b], [none, none]⟩ := by
    refine .tail (.tail (.tail .refl (.issue rfl)) (.issue rfl))
      (.wait (by decide : 0 < 120) rfl (by decide) ?_)
    intro i e f fetch pending
    match i with
    | 0 => cases fetch; exact Nat.le_refl 120
    | 1 => cases fetch; exact Nat.le_refl 120
    | i + 2 => cases fetch
  have ends := waits.tail (@Step.resolve _ _ 0 a slow rfl rfl (Nat.le_refl 120))
  have ends' := (waits'.tail (@Step.resolve _ _ 1 b slow rfl rfl (Nat.le_refl 120))).tail
    (@Step.resolve _ _ 0 a slow rfl rfl (Nat.le_refl 120))
  obtain ⟨-, -, -, -, complete⟩ := join_outcomes ends
  obtain ⟨-, -, -, -, -, isolated⟩ := complete [some Report.empty, none] rfl
  exact ⟨p, q, _, _, ends, ends', rfl, rfl, rfl, rfl, rfl, rfl,
    (isolated 0 a slow rfl).2.2.2 q _ _ slow ends' rfl rfl rfl⟩

end Join
end FleetWatch
