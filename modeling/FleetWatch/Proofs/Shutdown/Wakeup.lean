import FleetWatch.Shutdown
import Mathlib.Logic.Relation

/-!
# No trigger is missed

Waits and triggers take their atomic moves in any order and any number.  A wait that parks has read
the flag while no trigger had stored it, and it was registered before; so whichever trigger stores
the flag later finds it when it notifies.  A loop that waits afresh in every round hears of a trigger
that falls between two rounds from the flag alone.

* `waiter_move`, `exists_of_waiter_move`: what a move does to one wait.
* `sound_run`: flag, triggers and waits agree after any moves.
* `returned_of_ready`: own moves bring a wait to its end, whatever stands between them.
* `no_wakeup_lost`: waits, triggers and the loop in every order of their moves.
-/

namespace FleetWatch
namespace Shutdown

open scoped List

/-! ## What a move does to one wait -/

def effect (s : Shutdown) (m : Move) (i : Nat) (w : Waiter) : Waiter :=
  match m with
  | .register k => if k = i then w.register else w
  | .check k => if k = i then w.check s.requested else w
  | .wake k => if k = i then w.wake else w
  | .notify k => if s.triggers[k]? = some .stored then w.notify else w
  | _ => w

theorem waiter_move {s : Shutdown} {i : Nat} {w : Waiter} (found : s.waiters[i]? = some w)
    (m : Move) : (s.move m).waiters[i]? = some (s.effect m i w) := by
  cases m with
  | callWait =>
    have bound := (List.getElem?_eq_some_iff.1 found).1
    simpa [move, effect, List.getElem?_append_left bound] using found
  | register k => simp [move, effect, List.getElem?_modify, found]
  | check k => simp [move, effect, List.getElem?_modify, found]
  | wake k => simp [move, effect, List.getElem?_modify, found]
  | callTrigger => exact found
  | store k =>
    simp only [move]
    split <;> exact found
  | notify k =>
    simp only [move, effect]
    split
    next stored => simp [stored, found]
    next other => simpa [if_neg other] using found

theorem length_waiters_move (s : Shutdown) (m : Move) :
    (s.move m).waiters.length = s.waiters.length + if m = .callWait then 1 else 0 := by
  cases m with
  | callWait => simp [move]
  | callTrigger => simp [move]
  | register k | check k | wake k => simp [move]
  | store k | notify k =>
    simp only [move]
    split <;> simp

theorem exists_of_waiter_move {s : Shutdown} {m : Move} {i : Nat} {w' : Waiter}
    (found : (s.move m).waiters[i]? = some w') :
    (s.waiters.length ≤ i ∧ w' = .called) ∨
      ∃ w, s.waiters[i]? = some w ∧ w' = s.effect m i w := by
  cases before : s.waiters[i]? with
  | some w =>
    rw [waiter_move before m] at found
    exact .inr ⟨w, rfl, (Option.some.inj found).symm⟩
  | none =>
    have beyond := List.getElem?_eq_none_iff.1 before
    have bound := (List.getElem?_eq_some_iff.1 found).1
    rw [length_waiters_move] at bound
    split at bound
    next call =>
      subst call
      have last : i = s.waiters.length := by omega
      subst last
      simp [move] at found
      exact .inl ⟨beyond, found.symm⟩
    next => omega

theorem effect_cases (s : Shutdown) (m : Move) (i : Nat) (w : Waiter) :
    (s.effect m i w = w ∧ ∀ k, m = .notify k → s.triggers[k]? ≠ some .stored) ∨
    (m = .register i ∧ s.effect m i w = w.register) ∨
    (m = .check i ∧ s.effect m i w = w.check s.requested) ∨
    (m = .wake i ∧ s.effect m i w = w.wake) ∨
    ∃ k, m = .notify k ∧ s.triggers[k]? = some .stored ∧ s.effect m i w = w.notify := by
  cases m with
  | callWait | callTrigger | store k => exact .inl ⟨rfl, by simp⟩
  | register k =>
    by_cases own : k = i
    · exact .inr (.inl ⟨by rw [own], if_pos own⟩)
    · exact .inl ⟨if_neg own, by simp⟩
  | check k =>
    by_cases own : k = i
    · exact .inr (.inr (.inl ⟨by rw [own], if_pos own⟩))
    · exact .inl ⟨if_neg own, by simp⟩
  | wake k =>
    by_cases own : k = i
    · exact .inr (.inr (.inr (.inl ⟨by rw [own], if_pos own⟩)))
    · exact .inl ⟨if_neg own, by simp⟩
  | notify k =>
    by_cases stored : s.triggers[k]? = some .stored
    · exact .inr (.inr (.inr (.inr ⟨k, rfl, stored, if_pos stored⟩)))
    · exact .inl ⟨if_neg stored, fun j same => by cases same; exact stored⟩

/-! ## Flag, triggers and waits -/

/-- The wait has been notified, or it is over. -/
def Heard (w : Waiter) : Prop := w = .registered true ∨ w = .parked true ∨ w = .returned

theorem Heard.of_register {w : Waiter} (heard : Heard w.register) : Heard w := by
  cases w with
  | called => simp [Heard, Waiter.register] at heard
  | registered _ | parked _ | returned => exact heard

theorem Heard.of_check {w : Waiter} {requested : Bool} (heard : Heard (w.check requested)) :
    Heard w ∨ requested = true := by
  cases w with
  | registered notified => cases requested <;> simp_all [Heard, Waiter.check]
  | called | parked _ | returned => exact .inl heard

theorem Heard.of_wake {w : Waiter} (heard : Heard w.wake) : Heard w := by
  cases w with
  | parked notified =>
    cases notified with
    | true => simp [Heard]
    | false => exact heard
  | called | registered _ | returned => exact heard

/-- A wait that is parked was so before, and is not notified now unless it was; or it has just read a
flag that nobody had stored. -/
theorem of_effect_parked {s : Shutdown} {m : Move} {i : Nat} {w : Waiter} {notified : Bool}
    (parked : s.effect m i w = .parked notified) :
    (∃ before, w = .parked before ∧ (notified = false →
      before = false ∧ ∀ k, m = .notify k → s.triggers[k]? ≠ some .stored)) ∨
      (m = .check i ∧ s.requested = false) := by
  rcases effect_cases s m i w with ⟨same, quiet⟩ | ⟨rfl, same⟩ | ⟨rfl, same⟩ | ⟨rfl, same⟩ |
    ⟨k, rfl, -, same⟩ <;> rw [same] at parked
  · exact .inl ⟨notified, parked, fun missed => ⟨missed, quiet⟩⟩
  · cases w with
    | called => cases parked
    | registered _ | parked _ | returned => exact .inl ⟨notified, parked, by simp⟩
  · cases w with
    | registered _ =>
      cases requested : s.requested with
      | true => simp [Waiter.check, requested] at parked
      | false => exact .inr ⟨rfl, rfl⟩
    | called | parked _ | returned => exact .inl ⟨notified, parked, by simp⟩
  · cases w with
    | parked before =>
      cases before with
      | true => cases parked
      | false => exact .inl ⟨false, rfl, by simp⟩
    | called | registered _ | returned => exact .inl ⟨notified, parked, by simp⟩
  · cases w with
    | parked before =>
      cases parked
      exact .inl ⟨before, rfl, by simp⟩
    | called | registered _ | returned => cases parked

structure Sound (s : Shutdown) : Prop where
  stored : s.requested = true ↔ ∃ t ∈ s.triggers, t ≠ .called
  heard : ∀ (i : Nat) (w : Waiter), s.waiters[i]? = some w → Heard w → s.requested = true
  woken : .completed ∈ s.triggers → ∀ i : Nat, s.waiters[i]? ≠ some (.parked false)

theorem requested_move {s : Shutdown} (requested : s.requested = true) (m : Move) :
    (s.move m).requested = true := by
  cases m with
  | store k =>
    simp only [move]
    split
    · rfl
    · exact requested
  | notify k =>
    simp only [move]
    split <;> exact requested
  | callWait | register k | check k | wake k | callTrigger => exact requested

theorem requested_run {s : Shutdown} (requested : s.requested = true) (moves : List Move) :
    (s.run moves).requested = true := by
  induction moves generalizing s with
  | nil => exact requested
  | cons m moves ih => exact ih (requested_move requested m)

theorem stored_move {s : Shutdown} (sound : Sound s) (m : Move) :
    (s.move m).requested = true ↔ ∃ t ∈ (s.move m).triggers, t ≠ .called := by
  cases m with
  | callTrigger => simpa [move] using sound.stored
  | store k =>
    simp only [move]
    split
    next called =>
      have bound := (List.getElem?_eq_some_iff.1 called).1
      simpa using ⟨_, List.mem_set bound .stored, by decide⟩
    next => exact sound.stored
  | notify k =>
    simp only [move]
    split
    next found =>
      have bound := (List.getElem?_eq_some_iff.1 found).1
      have requested := sound.stored.2 ⟨_, List.mem_of_getElem? found, by decide⟩
      exact ⟨fun _ => ⟨_, List.mem_set bound .completed, by decide⟩, fun _ => requested⟩
    next => exact sound.stored
  | callWait | register k | check k | wake k => exact sound.stored

/-- A wait hears of a trigger, or reads the flag, only when a trigger has stored it. -/
theorem Sound.of_effect_heard {s : Shutdown} (sound : Sound s) {m : Move} {i : Nat} {w : Waiter}
    (found : s.waiters[i]? = some w) (heard : Heard (s.effect m i w)) : s.requested = true := by
  rcases effect_cases s m i w with ⟨same, -⟩ | ⟨-, same⟩ | ⟨-, same⟩ | ⟨-, same⟩ |
    ⟨k, -, stored, -⟩
  · exact sound.heard i w found (same ▸ heard)
  · rw [same] at heard
    exact sound.heard i w found heard.of_register
  · rw [same] at heard
    exact heard.of_check.elim (sound.heard i w found) id
  · rw [same] at heard
    exact sound.heard i w found heard.of_wake
  · exact sound.stored.2 ⟨_, List.mem_of_getElem? stored, by decide⟩

theorem completed_of_move {s : Shutdown} {m : Move} (completed : .completed ∈ (s.move m).triggers) :
    .completed ∈ s.triggers ∨ ∃ k, m = .notify k ∧ s.triggers[k]? = some .stored := by
  cases m with
  | callTrigger => simpa [move] using completed
  | store k =>
    simp only [move] at completed
    split at completed
    · rcases List.mem_or_eq_of_mem_set completed with old | new
      · exact .inl old
      · cases new
    · exact .inl completed
  | notify k =>
    simp only [move] at completed
    split at completed
    next stored => exact .inr ⟨k, rfl, stored⟩
    next => exact .inl completed
  | callWait | register k | check k | wake k => exact .inl completed

theorem Sound.move {s : Shutdown} (sound : Sound s) (m : Move) : Sound (s.move m) where
  stored := stored_move sound m
  heard := by
    intro i w' found heard
    rcases exists_of_waiter_move found with ⟨-, rfl⟩ | ⟨w, before, rfl⟩
    · simp [Heard] at heard
    · exact requested_move (sound.of_effect_heard before heard) m
  woken := by
    intro completed i found
    rcases exists_of_waiter_move found with ⟨-, new⟩ | ⟨w, before, parked⟩
    · cases new
    have earlier := completed_of_move completed
    rcases of_effect_parked parked.symm with ⟨_, rfl, missed⟩ | ⟨rfl, unread⟩
    · obtain ⟨rfl, quiet⟩ := missed rfl
      rcases earlier with old | ⟨k, rfl, stored⟩
      · exact sound.woken old i before
      · exact quiet k rfl stored
    · rcases earlier with old | ⟨k, other, -⟩
      · rw [sound.stored.2 ⟨_, old, by decide⟩] at unread
        cases unread
      · cases other

theorem Sound.run {s : Shutdown} (sound : Sound s) (moves : List Move) : Sound (s.run moves) := by
  induction moves generalizing s with
  | nil => exact sound
  | cons m moves ih => exact ih (sound.move m)

theorem sound_run (moves : List Move) : Sound (run {} moves) :=
  Sound.run ⟨by simp, by simp, by simp⟩ moves

/-! ## Waits come to their end -/

/-- The own moves that a wait still needs once the flag is stored. -/
def remaining (i : Nat) : Waiter → List Move
  | .called => [.register i, .check i]
  | .registered _ => [.check i]
  | .parked _ => [.wake i]
  | .returned => []

section
variable {s : Shutdown} {i : Nat} {w : Waiter}

theorem remaining_effect_of_head (requested : s.requested = true) (ready : w ≠ .parked false)
    {m : Move} {rest : List Move} (next : remaining i w = m :: rest) :
    remaining i (s.effect m i w) = rest := by
  cases w with
  | called =>
    cases next
    simp [effect, Waiter.register, remaining]
  | registered notified =>
    cases next
    simp [effect, Waiter.check, requested, remaining]
  | parked notified =>
    cases next
    cases notified with
    | true => simp [effect, Waiter.wake, remaining]
    | false => exact absurd rfl ready
  | returned => cases next

theorem remaining_effect_sublist (requested : s.requested = true) (ready : w ≠ .parked false)
    (m : Move) : remaining i (s.effect m i w) <+ remaining i w := by
  rcases effect_cases s m i w with ⟨same, -⟩ | ⟨-, same⟩ | ⟨-, same⟩ | ⟨-, same⟩ | ⟨-, -, -, same⟩
  · simp [same]
  · rw [same]
    cases w <;> simp [Waiter.register, remaining]
  · rw [same]
    cases w <;> simp [Waiter.check, requested, remaining]
  · rw [same]
    cases w with
    | parked notified => cases notified <;> simp [Waiter.wake, remaining]
    | called | registered _ | returned => exact List.Sublist.refl _
  · rw [same]
    cases w <;> exact List.Sublist.refl _

/-- Its own moves bring a wait to its end, whatever the others do between them. -/
theorem returned_of_ready (requested : s.requested = true) (found : s.waiters[i]? = some w)
    (ready : w ≠ .parked false) {moves : List Move} (own : remaining i w <+ moves) :
    (s.run moves).waiters[i]? = some .returned := by
  induction moves generalizing s w with
  | nil =>
    cases w with
    | returned => exact found
    | called | registered _ | parked _ => cases own
  | cons m moves ih =>
    have ready' : s.effect m i w ≠ .parked false := by
      intro parked
      rcases of_effect_parked parked with ⟨_, rfl, missed⟩ | ⟨-, unread⟩
      · exact ready (by rw [(missed rfl).1])
      · rw [requested] at unread
        cases unread
    refine ih (requested_move requested m) (waiter_move found m) ready' ?_
    cases needed : remaining i w with
    | nil =>
      have none := needed ▸ remaining_effect_sublist requested ready m
      rw [List.sublist_nil.1 none]
      exact List.nil_sublist _
    | cons next rest =>
      rw [needed] at own
      cases own with
      | cons _ later => exact (remaining_effect_sublist requested ready m).trans (needed ▸ later)
      | cons_cons _ later => rwa [remaining_effect_of_head requested ready needed]

end

theorem not_parked_move {s : Shutdown} {i : Nat} (requested : s.requested = true)
    (free : ∀ notified, s.waiters[i]? ≠ some (.parked notified)) (m : Move) (notified : Bool) :
    (s.move m).waiters[i]? ≠ some (.parked notified) := by
  intro found
  rcases exists_of_waiter_move found with ⟨-, new⟩ | ⟨w, before, parked⟩
  · cases new
  · rcases of_effect_parked parked.symm with ⟨already, rfl, -⟩ | ⟨-, unread⟩
    · exact free already before
    · rw [requested] at unread
      cases unread

theorem not_parked_run {s : Shutdown} {i : Nat} (requested : s.requested = true)
    (free : ∀ notified, s.waiters[i]? ≠ some (.parked notified)) (moves : List Move)
    (notified : Bool) : (s.run moves).waiters[i]? ≠ some (.parked notified) := by
  induction moves generalizing s with
  | nil => exact free notified
  | cons m moves ih => exact ih (requested_move requested m) (not_parked_move requested free m)

theorem length_le_run (s : Shutdown) (moves : List Move) :
    s.waiters.length ≤ (s.run moves).waiters.length := by
  induction moves generalizing s with
  | nil => exact Nat.le_refl _
  | cons m moves ih =>
    have one : s.waiters.length ≤ (s.move m).waiters.length := by
      rw [length_waiters_move]
      omega
    exact Nat.le_trans one (ih (s.move m))

/-- A wait that is called when the flag is stored returns without parking. -/
theorem late_wait {s : Shutdown} (requested : s.requested = true) (later : List Move) {i : Nat}
    (late : s.waiters.length ≤ i) (called : i < (s.run later).waiters.length) :
    (∀ notified, (s.run later).waiters[i]? ≠ some (.parked notified)) ∧
      ∀ own, [.register i, .check i] <+ own →
        ((s.run later).run own).waiters[i]? = some .returned := by
  have absent : s.waiters[i]? = none := List.getElem?_eq_none_iff.2 late
  have free := not_parked_run requested (i := i) (by simp [absent]) later
  refine ⟨free, fun own polled => ?_⟩
  obtain ⟨w, found⟩ : ∃ w, (s.run later).waiters[i]? = some w :=
    ⟨_, List.getElem?_eq_getElem called⟩
  refine returned_of_ready (requested_run requested later) found
    (fun parked => free false (parked ▸ found)) (.trans ?_ polled)
  cases w with
  | called => exact List.Sublist.refl _
  | registered _ => exact List.sublist_cons_self _ _
  | parked notified => exact absurd found (free notified)
  | returned => exact List.nil_sublist _

/-! ## A loop that waits afresh in every round -/

inductive Round where
  | between
  | waiting (waiter : Nat)
  | ended
deriving DecidableEq

/-- A shutdown and a loop that listens to it.  A round polls a fresh wait and a ticker. -/
structure Listener where
  shutdown : Shutdown := {}
  round : Round := .between

namespace Listener

/-- The ticker may win a round at any moment, also before the wait of the round has registered; that
wait is then dropped. -/
inductive Step : Listener → Listener → Prop
  | move {l : Listener} (m : Move) : Step l { l with shutdown := l.shutdown.move m }
  | enter {l : Listener} (between : l.round = .between) :
      Step l ⟨l.shutdown.move .callWait, .waiting l.shutdown.waiters.length⟩
  | tick {l : Listener} {i : Nat} (waiting : l.round = .waiting i) :
      Step l { l with round := .between }
  | leave {l : Listener} {i : Nat} (waiting : l.round = .waiting i)
      (returned : l.shutdown.waiters[i]? = some .returned) : Step l { l with round := .ended }

abbrev Steps : Listener → Listener → Prop := Relation.ReflTransGen Step

def Reachable (l : Listener) : Prop := Steps {} l

theorem Steps.exists_run {l l' : Listener} (steps : Steps l l') :
    ∃ moves, l'.shutdown = l.shutdown.run moves := by
  induction steps with
  | refl => exact ⟨[], rfl⟩
  | @tail l₁ _ _ step ih =>
    obtain ⟨moves, same⟩ := ih
    have moved (m : Move) : l₁.shutdown.move m = l.shutdown.run (moves ++ [m]) := by
      rw [run_append, ← same]
      rfl
    cases step with
    | move m => exact ⟨_, moved m⟩
    | enter between => exact ⟨_, moved .callWait⟩
    | tick waiting => exact ⟨moves, same⟩
    | leave waiting returned => exact ⟨moves, same⟩

theorem Reachable.sound {l : Listener} (reachable : Reachable l) : l.shutdown.Sound := by
  obtain ⟨moves, same⟩ := Steps.exists_run reachable
  rw [same]
  exact sound_run moves

/-- The wait of a round is called in it: it is there, and it is none of those before. -/
theorem Steps.fresh {l l' : Listener} (steps : Steps l l') (between : l.round = .between) {i : Nat}
    (waiting : l'.round = .waiting i) :
    l.shutdown.waiters.length ≤ i ∧ i < l'.shutdown.waiters.length := by
  induction steps with
  | refl =>
    rw [between] at waiting
    cases waiting
  | @tail l₁ _ steps step ih =>
    cases step with
    | move m =>
      obtain ⟨new, called⟩ := ih waiting
      refine ⟨new, ?_⟩
      rw [length_waiters_move]
      omega
    | enter between' =>
      cases waiting
      obtain ⟨moves, same⟩ := Steps.exists_run steps
      have before := length_le_run l.shutdown moves
      rw [← same] at before
      refine ⟨before, ?_⟩
      rw [length_waiters_move, if_pos rfl]
      omega
    | tick waiting' => cases waiting
    | leave waiting' returned => cases waiting

theorem Reachable.requested_of_ended {l : Listener} (reachable : Reachable l)
    (ended : l.round = .ended) : l.shutdown.requested = true := by
  induction reachable with
  | refl => cases ended
  | tail steps step ih =>
    cases step with
    | move m => exact requested_move (ih ended) m
    | enter between => cases ended
    | tick waiting => cases ended
    | leave waiting returned =>
      exact (Reachable.sound steps).heard _ _ returned (.inr (.inr rfl))

end Listener

/-! ## The statement -/

theorem no_wakeup_lost :
    (∀ moves : List Move,
      (.completed ∈ (run {} moves).triggers → .parked false ∉ (run {} moves).waiters) ∧
      ((run {} moves).requested = true ↔
        ∃ t ∈ (run {} moves).triggers, t = .stored ∨ t = .completed) ∧
      (∀ (m : Move) (i : Nat), (run {} moves).waiters[i]? ≠ some .returned →
        ((run {} moves).move m).waiters[i]? = some .returned →
        ∃ t ∈ (run {} moves).triggers, t = .stored ∨ t = .completed) ∧
      ((run {} moves).requested = true → ∀ later : List Move,
        ((run {} moves).run later).requested = true ∧
        ∀ i : Nat, (run {} moves).waiters.length ≤ i →
          i < ((run {} moves).run later).waiters.length →
          (∀ notified, ((run {} moves).run later).waiters[i]? ≠ some (.parked notified)) ∧
          ∀ own, [.register i, .check i] <+ own →
            (((run {} moves).run later).run own).waiters[i]? = some .returned)) ∧
    ∀ l : Listener, l.Reachable →
      (l.round = .ended → l.shutdown.requested = true) ∧
      (l.round = .between → l.shutdown.requested = true → ∀ l', Listener.Steps l l' →
        ∀ i : Nat, l'.round = .waiting i →
          (∀ notified, l'.shutdown.waiters[i]? ≠ some (.parked notified)) ∧
          ∀ own, [.register i, .check i] <+ own →
            (l'.shutdown.run own).waiters[i]? = some .returned) ∧
      (.completed ∈ l.shutdown.triggers → ∀ i : Nat, l.round = .waiting i →
        ∀ own, [.register i, .check i, .wake i] <+ own →
          (l.shutdown.run own).waiters[i]? = some .returned) := by
  refine ⟨fun moves => ?_, fun l reachable => ?_⟩
  · have sound := sound_run moves
    have stored : (run {} moves).requested = true ↔
        ∃ t ∈ (run {} moves).triggers, t = .stored ∨ t = .completed := by
      rw [sound.stored]
      refine exists_congr fun t => and_congr_right fun _ => ?_
      cases t <;> simp
    refine ⟨fun completed missed => ?_, stored, ?_, ?_⟩
    · obtain ⟨i, found⟩ := List.getElem?_of_mem missed
      exact sound.woken completed i found
    · intro m i waits returned
      rcases exists_of_waiter_move returned with ⟨-, new⟩ | ⟨w, before, same⟩
      · cases new
      · exact stored.1 (sound.of_effect_heard before (.inr (.inr same.symm)))
    · intro requested later
      exact ⟨requested_run requested later, fun i late called => late_wait requested later late called⟩
  · have sound := reachable.sound
    refine ⟨reachable.requested_of_ended, ?_, ?_⟩
    · intro between requested l' steps i waiting
      obtain ⟨moves, same⟩ := Listener.Steps.exists_run steps
      obtain ⟨late, called⟩ := Listener.Steps.fresh steps between waiting
      rw [same] at called ⊢
      exact late_wait requested moves late called
    · intro completed i waiting own polled
      have requested := sound.stored.2 ⟨_, completed, by decide⟩
      obtain ⟨-, called⟩ := Listener.Steps.fresh reachable rfl waiting
      have found := List.getElem?_eq_getElem called
      have ready : l.shutdown.waiters[i] ≠ .parked false := fun parked =>
        sound.woken completed i (parked ▸ found)
      refine returned_of_ready requested found ready (.trans ?_ polled)
      cases l.shutdown.waiters[i] <;> simp [remaining]

/-- The second wait registers between the two moves of the trigger that the first has missed. -/
theorem no_wakeup_lost_between :
    let moves : List Move := [.callWait, .callTrigger, .register 0, .check 0, .callWait, .store 0,
      .register 1, .notify 0, .check 1]
    (run {} moves).triggers = [.completed] ∧
      (run {} moves).waiters = [.parked true, .returned] ∧
      .parked false ∉ (run {} moves).waiters :=
  ⟨rfl, rfl, (no_wakeup_lost.1 _).1 (by decide)⟩

end Shutdown
end FleetWatch
