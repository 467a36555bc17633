import FleetWatch.CommandLine.Session
import FleetWatch.Proofs.Log.Verbosity
import Mathlib.Data.Finset.Sort
import Mathlib.Data.String.Basic

/-!
# The keys that a session announces

The arguments are read twice for the keys behind `--debug-`: by the filter, which keeps a set of
them among all else that it takes, and by the session, which announces them in its first record.

* `insertKey_sort`, `foldl_insertKey`: keys inserted one after the other give their set in
  increasing order.
* `debugKeys_foldl`: the filter inserts the keys that are listed, in their order.
* `map_debugKeys`: the listed keys are the arguments that name one, in their order.
* `announces_what_passes`: the two readings agree, and the announcement passes exactly with the
  records that it announces.
-/

namespace FleetWatch
namespace Log

/-! ## Sets of keys -/

theorem sortedLT_insertKey (key : String) {ks : List String} (sorted : ks.SortedLT) :
    (insertKey key ks).SortedLT := by
  rw [List.sortedLT_iff_pairwise] at sorted ⊢
  induction ks with
  | nil => exact List.pairwise_singleton _ _
  | cons k ks ih =>
    obtain ⟨least, rest⟩ := List.pairwise_cons.1 sorted
    unfold insertKey
    split
    next => exact sorted
    next other =>
      split
      next below =>
        refine List.pairwise_cons.2 ⟨fun x listed => ?_, sorted⟩
        rcases List.mem_cons.1 listed with rfl | listed
        · exact below
        · exact lt_trans below (least x listed)
      next above =>
        refine List.pairwise_cons.2 ⟨fun x listed => ?_, ih rest⟩
        rcases mem_insertKey.1 listed with rfl | listed
        · exact lt_of_le_of_ne (not_lt.1 above) (Ne.symm other)
        · exact least x listed

theorem insertKey_sort (key : String) (s : Finset String) :
    insertKey key (s.sort (· ≤ ·)) = (insert key s).sort (· ≤ ·) := by
  refine (sortedLT_insertKey key s.sortedLT_sort).eq_of_mem_iff (Finset.sortedLT_sort _) ?_
  intro x
  rw [mem_insertKey, Finset.mem_sort, Finset.mem_sort, Finset.mem_insert]

theorem foldl_insertKey (keys : List String) :
    keys.foldl (fun ks key => insertKey key ks) [] = keys.toFinset.sort (· ≤ ·) := by
  induction keys using List.reverseRecOn with
  | nil => simp
  | append_singleton keys key ih =>
    have last : (keys ++ [key]).toFinset = insert key keys.toFinset := by
      ext x
      simp
    rw [List.foldl_append, ih, last]
    exact insertKey_sort key keys.toFinset

/-! ## The two readings -/

namespace Filter

theorem debugKeys_foldl (filter : Filter) (arguments : List String) :
    (arguments.foldl takeArgument filter).debugKeys =
      (Arguments.debugKeys arguments).foldl (fun ks key => insertKey key ks) filter.debugKeys := by
  induction arguments generalizing filter with
  | nil => rfl
  | cons argument arguments ih =>
    rw [Arguments.debugKeys] at ih ⊢
    rw [List.foldl_cons, ih, debugKeys_takeArgument, List.filterMap_cons]
    cases keyAfter? "--debug-" argument <;> rfl

theorem debugKeys_ofArguments (arguments : List String) :
    (ofArguments arguments).debugKeys =
      (Arguments.debugKeys arguments).toFinset.sort (· ≤ ·) := by
  rw [ofArguments, (keys_lift _).2.1, debugKeys_foldl]
  exact foldl_insertKey (Arguments.debugKeys arguments)

end Filter
end Log

namespace Arguments
open Log

/-- The argument names a key whose debug records it asks for. -/
def NamesKey (argument : String) : Prop := ∃ key, key ≠ "" ∧ argument = debugArgument key

theorem namesKey_iff {argument : String} :
    NamesKey argument ↔ ∃ key, keyAfter? "--debug-" argument = some key := by
  refine exists_congr fun key => ?_
  rw [keyAfter?_eq_some, and_comm, eq_comm, debugArgument]

instance : DecidablePred NamesKey := fun _ =>
  decidable_of_iff _ (Option.isSome_iff_exists.trans namesKey_iff.symm)

theorem map_debugKeys (arguments : List String) :
    (debugKeys arguments).map debugArgument = arguments.filter NamesKey := by
  induction arguments with
  | nil => rfl
  | cons argument arguments ih =>
    rw [debugKeys] at ih ⊢
    cases found : keyAfter? "--debug-" argument with
    | some key =>
      have names : NamesKey argument := namesKey_iff.2 ⟨key, found⟩
      have same : debugArgument key = argument := (keyAfter?_eq_some.1 found).1
      rw [List.filterMap_cons_some found, List.map_cons, ih, same]
      simp [names]
    | none =>
      have unnamed : ¬NamesKey argument := by simp [namesKey_iff, found]
      rw [List.filterMap_cons_none found, ih]
      simp [unnamed]

theorem mem_debugKeys {key : String} {arguments : List String} :
    key ∈ debugKeys arguments ↔ debugArgument key ∈ arguments ∧ key ≠ "" := by
  simp [debugKeys, List.mem_filterMap, keyAfter?_eq_some, debugArgument]

end Arguments

/-! ## The announcement -/

namespace Session
open Log Arguments

theorem announcement_eq {keys : List String} (listed : keys ≠ []) :
    announcement keys =
      [⟨.system, .info, "Debug enabled for: " ++ String.intercalate ", " keys⟩] :=
  if_neg (by simpa using listed)

/-- A tag whose key is listed gets its debug records, unless `--quiet` has the last word. -/
theorem allows_debug_of_listed {arguments : List String} {tag : Tag}
    (listed : tag.key ∈ debugKeys arguments) :
    (Filter.ofArguments arguments).allows tag .debug = true ↔
      mode? arguments ≠ some "--quiet" := by
  have named := (mem_debugKeys.1 listed).1
  rw [allows_iff_asked, Asked]
  rcases mode?_cases arguments with ⟨mode, -⟩ | mode | ⟨mode, -⟩
  · simp [mode, named]
  · simp [mode]
  · simp [mode]

/-- Apart from complaints, these records come before all else. -/
def LeadsWith (outputs : List Output) (records : List Record) : Prop :=
  ∃ (complaints : List String) (rest : List Output),
    outputs = complaints.map .complaint ++ records.map .record ++ rest

theorem logger_run (around : Surroundings) (colours : Bool) (clock : String)
    {arguments : List String} (interruptAt : Nat) (noHelp : wantsHelp arguments = false) :
    (run around colours clock arguments interruptAt).logger = logger around arguments := by
  unfold run
  simp only [noHelp]
  split <;> rfl

theorem leadsWith_begin (around : Surroundings) {arguments : List String}
    (noHelp : wantsHelp arguments = false) :
    LeadsWith (begin around arguments).1 (announcement (debugKeys arguments)) := by
  rw [begin, if_neg (by simp [noHelp])]
  simp only [List.map_append, List.append_assoc]
  exact ⟨_, _, (List.append_assoc _ _ _).symm⟩

theorem LeadsWith.append {outputs : List Output} {records : List Record}
    (leads : LeadsWith outputs records) (more : List Output) :
    LeadsWith (outputs ++ more) records := by
  obtain ⟨complaints, rest, rfl⟩ := leads
  exact ⟨complaints, rest ++ more, List.append_assoc _ _ _⟩

theorem leadsWith_run (around : Surroundings) (colours : Bool) (clock : String)
    {arguments : List String} (interruptAt : Nat) (noHelp : wantsHelp arguments = false) :
    LeadsWith (run around colours clock arguments interruptAt).outputs
      (announcement (debugKeys arguments)) := by
  have leads := leadsWith_begin around noHelp
  unfold run
  dsimp only
  split
  next => exact leads
  next => exact leads.append _
  next => exact leads.append _

/-- The two readings of the arguments agree, the filter's as a set and the session's in the order of
the arguments.  The announcement, with which a session starts, passes exactly if the debug records
of the tags that it names do. -/
theorem announces_what_passes (arguments : List String) :
    (Filter.ofArguments arguments).debugKeys = (debugKeys arguments).toFinset.sort (· ≤ ·) ∧
    (debugKeys arguments).map debugArgument = arguments.filter NamesKey ∧
    (∀ tag : Tag, tag.key ∈ debugKeys arguments →
      ∃ r, announcement (debugKeys arguments) = [r] ∧
        r.message = "Debug enabled for: " ++ String.intercalate ", " (debugKeys arguments) ∧
        (r.passes (Filter.ofArguments arguments) = true ↔
          (Filter.ofArguments arguments).allows tag .debug = true)) ∧
    (wantsHelp arguments = false → ∀ around colours clock interruptAt,
      let result := run around colours clock arguments interruptAt
      result.logger.filter = Filter.ofArguments arguments ∧
        LeadsWith result.outputs (announcement (debugKeys arguments))) := by
  refine ⟨Filter.debugKeys_ofArguments arguments, map_debugKeys arguments, ?_, ?_⟩
  · intro tag listed
    refine ⟨_, announcement_eq (List.ne_nil_of_mem listed), rfl, ?_⟩
    rw [allows_debug_of_listed listed]
    exact allows_iff_asked arguments .system .info
  · intro noHelp around colours clock interruptAt
    have started := logger_run around colours clock interruptAt noHelp
    exact ⟨congrArg Logger.filter started,
      leadsWith_run around colours clock interruptAt noHelp⟩

/-- A key that is listed twice is kept once, one that looks like a flag is a key as any other, and
an argument without a key names none. -/
theorem announces_what_passes_repeated :
    let arguments := ["--debug-poller", "--debug---quiet", "--verbose-fleet", "--debug-",
      "--debug-poller"]
    let announced : Record := ⟨.system, .info, "Debug enabled for: poller, --quiet, poller"⟩
    let around : Surroundings :=
      ⟨fun _ => .absent, .opened, .unreachable "no route", fun _ port => .ok port⟩
    let result := run around false "12:00:00" arguments 0
    (Filter.ofArguments arguments).debugKeys = ["--quiet", "poller"] ∧
      debugKeys arguments = ["poller", "--quiet", "poller"] ∧
      arguments.filter NamesKey = ["--debug-poller", "--debug---quiet", "--debug-poller"] ∧
      announced.passes (Filter.ofArguments arguments) = true ∧
      (Filter.ofArguments arguments).allows .poller .debug = true ∧
      result.logger.filter = Filter.ofArguments arguments ∧ LeadsWith result.outputs [announced] := by
  intro arguments announced around result
  have keys : debugKeys arguments = ["poller", "--quiet", "poller"] := by decide
  have passes : announced.passes (Filter.ofArguments arguments) = true := by decide
  obtain ⟨-, -, detail, starts⟩ := announces_what_passes arguments
  obtain ⟨r, announces, -, same⟩ := detail .poller (by decide)
  have one : announcement (debugKeys arguments) = [announced] := by decide
  obtain rfl : announced = r := by simpa [one] using announces
  have started := starts (by decide) around false "12:00:00" 0
  rw [one] at started
  exact ⟨by decide, keys, by decide, passes, same.1 passes, started⟩

end Session
end FleetWatch
