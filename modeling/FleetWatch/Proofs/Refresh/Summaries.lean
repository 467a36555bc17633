import FleetWatch.Proofs.Refresh.Newest
import Mathlib.Data.List.Basic

/-!
# Summaries in the log

Every cycle that lands logs a summary of its board, also one whose board is then refused; the line
that takes it back stands directly behind it.  The summaries that are not taken back are those of the
boards that entered the slot, in their order.

* `reported_landing`: all that a landing logs.
* `standing_flatMap`: which summaries are not taken back.
* `summaries_of_landings`: the summaries of a whole run, and which of them tells what the slot holds.
-/

namespace FleetWatch

/-! ## Lines of the log -/

namespace Log

def Record.opensWith (opening : String) (r : Record) : Bool :=
  r.tag = .fleet && r.level = .debug && opening.toList.isPrefixOf r.message.toList

def Record.isSummary : Record → Bool := Record.opensWith "cycle "

def Record.isStale : Record → Bool := Record.opensWith "Discarding stale cycle "

/-- The summaries that the next line does not take back. -/
def standing : List Record → List Record
  | [] => []
  | r :: rest => if r.isSummary && !rest.head?.any Record.isStale then r :: standing rest
    else standing rest

namespace Record

theorem opensWith_append (opening text : String) :
    opensWith opening ⟨.fleet, .debug, opening ++ text⟩ = true := by
  simp [opensWith, String.toList_append]

theorem isSummary_ofBoard (cycle : UInt64) (board : Board) :
    (ofBoard cycle board).isSummary = true := by
  rw [ofBoard, String.append_assoc, String.append_assoc]
  exact opensWith_append _ _

theorem isStale_ofBoard (cycle : UInt64) (board : Board) :
    (ofBoard cycle board).isStale = false := by
  simp [isStale, opensWith, ofBoard, String.toList_append, List.isPrefixOf]

theorem isStale_ofStale (cycle : UInt64) : (ofStale cycle).isStale = true := by
  rw [ofStale, String.append_assoc]
  exact opensWith_append _ _

theorem isSummary_ofStale (cycle : UInt64) : (ofStale cycle).isSummary = false := by
  simp [isSummary, opensWith, ofStale, String.toList_append, List.isPrefixOf]

theorem opensWith_ofHealth (opening name : String) (healthy : Bool) :
    opensWith opening (ofHealth name healthy) = false := by
  cases healthy <;> simp [opensWith, ofHealth]

end Record

/-- Where the details of the fleet are shown, all that a cycle logs about it is. -/
theorem passes_of_debug {filter : Filter} (debug : filter.allows .fleet .debug = true) {r : Record}
    (fleet : r.tag = .fleet) (level : r.level ≠ .verbose) : r.passes filter = true := by
  obtain ⟨tag, level', message⟩ := r
  obtain rfl : tag = .fleet := fleet
  have depth : Level.debug.rank ≤ filter.threshold.rank ∧ filter.opensDebug .fleet = true := by
    simpa [Filter.allows, Filter.opens] using debug
  have within {l : Level} (le : l.rank ≤ Level.debug.rank) : l.rank ≤ filter.threshold.rank :=
    Nat.le_trans le depth.1
  cases level' with
  | error => exact filter.allows_error .fleet
  | warning => simp [Record.passes, Filter.allows, Filter.opens, within (l := .warning) (by decide)]
  | info => simp [Record.passes, Filter.allows, Filter.opens, within (l := .info) (by decide)]
  | debug => exact debug
  | verbose => exact absurd rfl level

end Log

/-! ## The log of one landing -/

namespace Landing

def summary (endpoints : List Endpoint) (l : Landing) : Log.Record :=
  .ofBoard l.cycle (l.board endpoints)

theorem isSummary_summary (endpoints : List Endpoint) (l : Landing) :
    (l.summary endpoints).isSummary = true := Log.Record.isSummary_ofBoard _ _

/-- The landing has logged its summary, and then the changes of health or that it is refused. -/
def Reported (endpoints : List Endpoint) (l : Landing) : Prop :=
  l.publication.records = l.summary endpoints ::
    if l.accepted then l.publication.transitions.map Transition.record
    else [.ofStale l.cycle]

end Landing

namespace RefreshRun

def log (s : RefreshRun) : List Log.Record := s.landings.flatMap (·.publication.records)

theorem reported_landing (s : RefreshRun) (f : Flight) (now : Instant) :
    (s.landing f now).Reported s.refresh.endpoints := by
  unfold Landing.Reported landing Refresh.finish
  cases accepts : s.refresh.slot.accepts f.cycle with
  | true =>
    simp [Refresh.publish, Slot.publish_accepted accepts, Landing.accepted, Landing.summary,
      Landing.cycle, Landing.board]
  | false =>
    simp [Refresh.publish, Slot.publish_refused accepts, Landing.accepted, Landing.summary,
      Landing.cycle, Landing.board]

theorem Reachable.reported {endpoints : List Endpoint} {s : RefreshRun}
    (reachable : Reachable endpoints s) : ∀ l ∈ s.landings, l.Reported endpoints := by
  induction reachable with
  | refl => simp [fresh]
  | @tail s _ steps step ih =>
    cases step with
    | begin aligned => exact ih
    | @land place f aloft now =>
      have registry := (Reachable.consistent steps).registry
      intro l member
      rcases List.mem_append.1 member with old | new
      · exact ih l old
      · rw [List.mem_singleton.1 new, ← registry]
        exact reported_landing s f now
    | abandon aloft => exact ih

end RefreshRun

namespace Landing

variable {endpoints : List Endpoint} {l : Landing}

theorem Reported.fleet (reported : l.Reported endpoints) {r : Log.Record}
    (member : r ∈ l.publication.records) : r.tag = .fleet ∧ r.level ≠ .verbose := by
  rw [reported, List.mem_cons] at member
  rcases member with rfl | member
  · exact ⟨rfl, nofun⟩
  · split at member
    · obtain ⟨t, -, rfl⟩ := List.mem_map.1 member
      cases healthy : t.healthy <;> simp [Transition.record, Log.Record.ofHealth, healthy]
    · rw [List.mem_singleton.1 member]
      exact ⟨rfl, nofun⟩

theorem Reported.filter_isSummary (reported : l.Reported endpoints) :
    l.publication.records.filter Log.Record.isSummary = [l.summary endpoints] := by
  have none : (if l.accepted then l.publication.transitions.map Transition.record
      else [Log.Record.ofStale l.cycle]).filter Log.Record.isSummary = [] := by
    split
    · refine List.filter_eq_nil_iff.2 fun r member => ?_
      obtain ⟨t, -, rfl⟩ := List.mem_map.1 member
      rw [Transition.record, Log.Record.isSummary, Log.Record.opensWith_ofHealth]
      exact Bool.false_ne_true
    · exact List.filter_cons_of_neg (by simp [Log.Record.isSummary_ofStale])
  rw [reported, List.filter_cons_of_pos (isSummary_summary endpoints l), none]

/-- What is behind the log of a landing takes nothing of it back. -/
theorem Reported.standing_append (reported : l.Reported endpoints) {rest : List Log.Record}
    (fresh : rest.head?.any Log.Record.isStale = false) :
    Log.standing (l.publication.records ++ rest) =
      (if l.accepted then [l.summary endpoints] else []) ++ Log.standing rest := by
  rw [reported, List.cons_append, Log.standing, isSummary_summary, Bool.true_and]
  cases accepted : l.accepted with
  | false =>
    have stale := Log.Record.isStale_ofStale l.cycle
    have other := Log.Record.isSummary_ofStale l.cycle
    simp [Log.standing, stale, other]
  | true =>
    simp only [if_true]
    have quiet : ∀ ts : List Transition,
        Log.standing (ts.map Transition.record ++ rest) = Log.standing rest ∧
          (ts.map Transition.record ++ rest).head?.any Log.Record.isStale = false := by
      intro ts
      induction ts with
      | nil => exact ⟨rfl, fresh⟩
      | cons t ts ih =>
        have silent (opening : String) : t.record.opensWith opening = false :=
          Log.Record.opensWith_ofHealth _ _ _
        simp [Log.standing, Log.Record.isSummary, Log.Record.isStale, silent, ih.1]
    obtain ⟨behind, head⟩ := quiet l.publication.transitions
    rw [head, behind]
    rfl

end Landing

/-! ## The log of a run -/

namespace RefreshRun

variable {endpoints : List Endpoint} {s : RefreshRun}

theorem filter_isSummary_log (reported : ∀ l ∈ s.landings, l.Reported endpoints) :
    s.log.filter Log.Record.isSummary = s.landings.map (·.summary endpoints) := by
  rw [log, List.filter_flatMap, List.map_eq_flatMap]
  exact List.flatMap_congr fun l member => (reported l member).filter_isSummary

theorem standing_flatMap {landings : List Landing}
    (reported : ∀ l ∈ landings, l.Reported endpoints) :
    Log.standing (landings.flatMap (·.publication.records)) =
      (landings.filter (·.accepted)).map (·.summary endpoints) := by
  induction landings with
  | nil => rfl
  | cons l landings ih =>
    obtain ⟨here, others⟩ := List.forall_mem_cons.1 reported
    have fresh : (landings.flatMap (·.publication.records)).head?.any Log.Record.isStale = false := by
      cases landings with
      | nil => rfl
      | cons m landings =>
        rw [List.flatMap_cons, others m List.mem_cons_self]
        exact Log.Record.isStale_ofBoard _ _
    rw [List.flatMap_cons, here.standing_append fresh, ih others, List.filter_cons]
    split <;> rfl

/-- The slot holds what the last accepted landing has brought. -/
theorem Reachable.content_slot (reachable : Reachable endpoints s) :
    content s.refresh.slot =
      (s.landings.filter (·.accepted)).getLast?.map fun l => (l.cycle, l.board endpoints) := by
  induction reachable with
  | refl => rfl
  | @tail s _ steps step ih =>
    cases step with
    | begin aligned => exact ih
    | @land place f aloft now =>
      have registry := (Reachable.consistent steps).registry
      have answer := accepted_landing s f now
      rw [refresh_land]
      cases accepts : s.refresh.slot.accepts f.cycle with
      | true =>
        rw [accepts] at answer
        simp [land, List.filter_append, answer, content, registry]
        rfl
      | false =>
        rw [accepts] at answer
        simpa [land, List.filter_append, answer] using ih
    | abandon aloft => exact ih

/-- Where the details of the fleet are shown, there is one summary for every cycle that has landed.
Those that the next line does not take back are of the accepted cycles, in their order, and the last
of them tells what the slot holds; the last one at all does so unless its board was refused. -/
theorem summaries_of_landings (reachable : Reachable endpoints s) {filter : Log.Filter}
    (debug : filter.allows .fleet .debug = true) :
    let shown := s.log.filter (·.passes filter)
    shown = s.log ∧
    shown.filter Log.Record.isSummary = s.landings.map (·.summary endpoints) ∧
    Log.standing shown = (s.landings.filter (·.accepted)).map (·.summary endpoints) ∧
    (Log.standing shown).getLast? =
      s.refresh.slot.map (fun p => Log.Record.ofBoard p.cycle p.board) ∧
    ∀ l, s.landings.getLast? = some l →
      (shown.filter Log.Record.isSummary).getLast? = some (l.summary endpoints) ∧
      ∃ p, s.refresh.slot = some p ∧
        if l.accepted then l.summary endpoints = .ofBoard p.cycle p.board else l.cycle ≤ p.cycle := by
  intro shown
  have reported := reachable.reported
  have all : shown = s.log := by
    refine List.filter_eq_self.2 fun r member => ?_
    obtain ⟨l, landed, member⟩ := List.mem_flatMap.1 member
    obtain ⟨fleet, level⟩ := (reported l landed).fleet member
    exact Log.passes_of_debug debug fleet level
  have standing : Log.standing s.log = _ := standing_flatMap reported
  have held := reachable.content_slot
  rw [all]
  refine ⟨rfl, filter_isSummary_log reported, standing, ?_, fun l last => ⟨?_, ?_⟩⟩
  · calc (Log.standing s.log).getLast?
        = (content s.refresh.slot).map fun held => Log.Record.ofBoard held.1 held.2 := by
          rw [standing, List.getLast?_map, held, Option.map_map]
          rfl
      _ = _ := by
          rw [content, Option.map_map]
          rfl
  · rw [filter_isSummary_log reported, List.getLast?_map, last]
    rfl
  · obtain ⟨earlier, split⟩ := List.getLast?_eq_some_iff.1 last
    have landed : l ∈ s.landings := List.mem_of_getLast? last
    obtain ⟨empty, newest⟩ := reachable.newest.1
    obtain ⟨p, holds⟩ : ∃ p, s.refresh.slot = some p :=
      Option.ne_none_iff_exists'.1 fun none => List.ne_nil_of_mem landed (empty.1 none)
    refine ⟨p, holds, ?_⟩
    cases accepted : l.accepted with
    | false =>
      obtain ⟨-, -, -, -, all⟩ := newest p holds
      exact all l landed
    | true =>
      have brought : content s.refresh.slot = some (l.cycle, l.board endpoints) := by
        rw [held, split, List.filter_append, List.filter_cons_of_pos accepted, List.filter_nil,
          List.getLast?_concat]
        rfl
      rw [holds, content, Option.map_some, Option.some.injEq, Prod.mk.injEq] at brought
      rw [if_pos rfl, brought.1, brought.2]
      rfl

/-- The fleet of one that `overtaken` watches. -/
def fleetOfOne : List Endpoint := [⟨"A", "http://a"⟩]

def answered : Poll := ⟨0, [(⟨"A", "http://a"⟩, { result := .ok Report.empty })]⟩

/-- Two cycles begin, and the second lands before the first. -/
def overtaken : RefreshRun :=
  (((((fresh fleetOfOne).begin answered).begin answered).land 1 ⟨1, answered⟩ ⟨5, 0⟩).land 0
    ⟨0, answered⟩ ⟨9, 0⟩)

theorem reachable_overtaken : Reachable fleetOfOne overtaken :=
  .tail (.tail (.tail (.tail .refl (.begin rfl)) (.begin rfl)) (.land rfl ⟨5, 0⟩)) (.land rfl ⟨9, 0⟩)

def debugFleet : Log.Filter := .ofArguments ["--debug-fleet"]

theorem summaries_of_landings_overtaken :
    debugFleet.allows .fleet .debug = true ∧ Reachable fleetOfOne overtaken ∧
      overtaken.landings.map (·.accepted) = [true, false] ∧
      (Log.standing (overtaken.log.filter (·.passes debugFleet))).map (·.message) =
        ["cycle 1: CONNECTED (1/1 up, 0 probes, worst p95 --)"] := by
  have debug : debugFleet.allows .fleet .debug = true := by decide +kernel
  obtain ⟨-, -, standing, -⟩ := summaries_of_landings reachable_overtaken debug
  refine ⟨debug, reachable_overtaken, rfl, ?_⟩
  rw [standing]
  decide +kernel

/-- The late cycle is refused and has its summary all the same, which is then the last one and not of
the board that the slot holds. -/
theorem refused_cycle_summarized :
    Reachable fleetOfOne overtaken ∧ debugFleet.allows .fleet .debug = true ∧
      overtaken.refresh.slot.map (·.cycle) = some 1 ∧
      let summaries := (overtaken.log.filter (·.passes debugFleet)).filter Log.Record.isSummary
      summaries.map (·.message) =
        ["cycle 1: CONNECTED (1/1 up, 0 probes, worst p95 --)",
          "cycle 0: CONNECTED (1/1 up, 0 probes, worst p95 --)"] ∧
      summaries ≠ (overtaken.landings.filter (·.accepted)).map (·.summary fleetOfOne) ∧
      summaries.getLast? ≠
        overtaken.refresh.slot.map (fun p => Log.Record.ofBoard p.cycle p.board) :=
  ⟨reachable_overtaken, by decide +kernel, rfl, by decide +kernel, by decide +kernel,
    by decide +kernel⟩

end RefreshRun
end FleetWatch
