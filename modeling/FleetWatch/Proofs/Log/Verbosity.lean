import FleetWatch.Log.Filter
import Mathlib.Data.List.Induction

/-!
# What the arguments let through

The last of `--quiet` and `--verbose` decides for all tags; only where there is none of them does a
tag get the detail that is asked for it.  Although the tags share one threshold, an argument for one
tag changes nothing for another.

* `Collects.takeArgument`: what one argument adds to a filter.
* `collects_arguments`: what a filter has collected from all of them.
* `passes_as_asked`: the records that pass, and which arguments matter to them.
-/

namespace FleetWatch.Log

/-! ## Arguments by their meaning -/

def debugArgument (key : String) : String := "--debug-" ++ key

def verboseArgument (key : String) : String := "--verbose-" ++ key

/-- The arguments that set the threshold for all tags. -/
def IsMode (argument : String) : Prop := argument = "--quiet" ∨ argument = "--verbose"

instance : DecidablePred IsMode := fun argument =>
  inferInstanceAs (Decidable (argument = "--quiet" ∨ argument = "--verbose"))

/-- The last of them. -/
def mode? (arguments : List String) : Option String := (arguments.filter IsMode).getLast?

theorem keyAfter?_eq_some {start argument key : String} :
    keyAfter? start argument = some key ↔ start ++ key = argument ∧ key ≠ "" := by
  rw [keyAfter?, Option.filter_eq_some_iff, textAfter?_eq_some, eq_comm (a := argument)]
  simp

theorem debugArgument_ne_verboseArgument (key key' : String) :
    debugArgument key ≠ verboseArgument key' := by
  intro same
  have letters := congrArg String.toList same
  simp [debugArgument, verboseArgument] at letters

theorem keyAfter?_verboseArgument (key : String) :
    keyAfter? "--debug-" (verboseArgument key) = none := by
  refine Option.eq_none_iff_forall_ne_some.2 fun key' found => ?_
  exact debugArgument_ne_verboseArgument key' key (keyAfter?_eq_some.1 found).1

def fixedArguments : List String := ["--quiet", "--verbose", "--no-log-file"]

theorem not_fixed_of_key {argument key : String}
    (found : keyAfter? "--debug-" argument = some key ∨ keyAfter? "--verbose-" argument = some key) :
    argument ∉ fixedArguments := by
  have none : ∀ argument ∈ fixedArguments, keyAfter? "--debug-" argument = none ∧
      keyAfter? "--verbose-" argument = none := by decide
  intro fixed
  rw [(none argument fixed).1, (none argument fixed).2] at found
  simp at found

/-! ## One argument -/

namespace Filter

variable (filter : Filter) {argument key : String}

theorem takeArgument_debug (found : keyAfter? "--debug-" argument = some key) :
    filter.takeArgument argument = { filter with debugKeys := insertKey key filter.debugKeys } := by
  have other := not_fixed_of_key (.inl found)
  simp only [fixedArguments, List.mem_cons, List.not_mem_nil, or_false, not_or] at other
  rw [takeArgument, if_neg other.1, if_neg other.2.1, if_neg other.2.2, found]

theorem takeArgument_verbose (found : keyAfter? "--verbose-" argument = some key) :
    filter.takeArgument argument =
      { filter with verboseKeys := insertKey key filter.verboseKeys } := by
  have other := not_fixed_of_key (.inr found)
  simp only [fixedArguments, List.mem_cons, List.not_mem_nil, or_false, not_or] at other
  have debug := keyAfter?_verboseArgument key
  rw [verboseArgument, (keyAfter?_eq_some.1 found).1] at debug
  rw [takeArgument, if_neg other.1, if_neg other.2.1, if_neg other.2.2, debug, found]

theorem keys_takeArgument (debug : keyAfter? "--debug-" argument = none)
    (verbose : keyAfter? "--verbose-" argument = none) :
    (filter.takeArgument argument).debugKeys = filter.debugKeys ∧
      (filter.takeArgument argument).verboseKeys = filter.verboseKeys := by
  simp only [takeArgument, debug, verbose]
  repeat' split
  all_goals exact ⟨rfl, rfl⟩

variable (argument)

theorem threshold_takeArgument :
    (filter.takeArgument argument).threshold =
      if argument = "--quiet" then .warning
      else if argument = "--verbose" then .verbose
      else filter.threshold := by
  unfold takeArgument
  repeat' split
  all_goals rfl

theorem everyTag_takeArgument :
    (filter.takeArgument argument).everyTag = true ↔
      filter.everyTag = true ∨ argument = "--verbose" := by
  unfold takeArgument
  split
  next quiet => simp [quiet]
  split
  next verbose => simp [verbose]
  next silent =>
    repeat' split
    all_goals simp [silent]

theorem debugKeys_takeArgument :
    (filter.takeArgument argument).debugKeys =
      match keyAfter? "--debug-" argument with
      | some key => insertKey key filter.debugKeys
      | none => filter.debugKeys := by
  cases debug : keyAfter? "--debug-" argument with
  | some key => rw [filter.takeArgument_debug debug]
  | none =>
    cases verbose : keyAfter? "--verbose-" argument with
    | some key => rw [filter.takeArgument_verbose verbose]
    | none => exact (filter.keys_takeArgument debug verbose).1

theorem mem_debugKeys_takeArgument (key : String) :
    key ∈ (filter.takeArgument argument).debugKeys ↔
      key ∈ filter.debugKeys ∨ keyAfter? "--debug-" argument = some key := by
  rw [debugKeys_takeArgument]
  cases keyAfter? "--debug-" argument with
  | some found => simp [mem_insertKey, or_comm, eq_comm]
  | none => simp

theorem mem_verboseKeys_takeArgument (key : String) :
    key ∈ (filter.takeArgument argument).verboseKeys ↔
      key ∈ filter.verboseKeys ∨ keyAfter? "--verbose-" argument = some key := by
  cases verbose : keyAfter? "--verbose-" argument with
  | some found => simp [filter.takeArgument_verbose verbose, mem_insertKey, or_comm, eq_comm]
  | none =>
    cases debug : keyAfter? "--debug-" argument with
    | some found => simp [filter.takeArgument_debug debug]
    | none => simp [filter.keys_takeArgument debug verbose]

end Filter

/-! ## All arguments -/

/-- The filter has taken these arguments, and its threshold is not lifted yet. -/
structure Collects (arguments : List String) (filter : Filter) : Prop where
  threshold : filter.threshold = match mode? arguments with
    | none => .info
    | some mode => if mode = "--quiet" then .warning else .verbose
  everyTag : filter.everyTag = true ↔ "--verbose" ∈ arguments
  debugKeys : ∀ key, key ∈ filter.debugKeys ↔ debugArgument key ∈ arguments ∧ key ≠ ""
  verboseKeys : ∀ key, key ∈ filter.verboseKeys ↔ verboseArgument key ∈ arguments ∧ key ≠ ""

theorem mode?_concat (arguments : List String) (argument : String) :
    mode? (arguments ++ [argument]) =
      if IsMode argument then some argument else mode? arguments := by
  rw [mode?, List.filter_append]
  split
  next mode => simp [mode]
  next other => simp [other, mode?]

theorem Collects.takeArgument {arguments : List String} {filter : Filter}
    (collects : Collects arguments filter) (argument : String) :
    Collects (arguments ++ [argument]) (filter.takeArgument argument) where
  threshold := by
    rw [Filter.threshold_takeArgument, mode?_concat, collects.threshold]
    by_cases quiet : argument = "--quiet"
    · simp [quiet, IsMode]
    · by_cases verbose : argument = "--verbose" <;> simp [quiet, verbose, IsMode]
  everyTag := by
    rw [Filter.everyTag_takeArgument, collects.everyTag, List.mem_append, List.mem_singleton,
      eq_comm (a := argument)]
  debugKeys key := by
    rw [Filter.mem_debugKeys_takeArgument, collects.debugKeys, keyAfter?_eq_some, List.mem_append,
      List.mem_singleton, or_and_right]
    rfl
  verboseKeys key := by
    rw [Filter.mem_verboseKeys_takeArgument, collects.verboseKeys, keyAfter?_eq_some,
      List.mem_append, List.mem_singleton, or_and_right]
    rfl

theorem collects_arguments (arguments : List String) :
    Collects arguments (arguments.foldl Filter.takeArgument {}) := by
  induction arguments using List.reverseRecOn with
  | nil => exact ⟨rfl, by simp, by simp, by simp⟩
  | append_singleton arguments argument ih =>
    rw [List.foldl_append]
    exact ih.takeArgument argument

/-! ## Lifting the threshold -/

namespace Filter

variable {filter : Filter}

theorem keys_lift (filter : Filter) : filter.lift.everyTag = filter.everyTag ∧
    filter.lift.debugKeys = filter.debugKeys ∧ filter.lift.verboseKeys = filter.verboseKeys := by
  unfold lift
  repeat' split
  all_goals exact ⟨rfl, rfl, rfl⟩

theorem lift_of_mode (moved : filter.threshold ≠ .info) : filter.lift = filter := if_pos moved

theorem threshold_lift_verbose (unmoved : filter.threshold = .info) {key : String}
    (listed : key ∈ filter.verboseKeys) : filter.lift.threshold = .verbose := by
  have some : filter.verboseKeys.isEmpty = false := by
    rw [List.isEmpty_eq_false_iff]
    exact List.ne_nil_of_mem listed
  simp [lift, unmoved, some]

theorem rank_threshold_lift (unmoved : filter.threshold = .info) :
    Level.info.rank ≤ filter.lift.threshold.rank := by
  unfold lift
  repeat' split
  all_goals simp_all [Level.rank]

theorem rank_threshold_lift_debug (unmoved : filter.threshold = .info) {key : String}
    (listed : key ∈ filter.debugKeys) : Level.debug.rank ≤ filter.lift.threshold.rank := by
  have some : filter.debugKeys.isEmpty = false := by
    rw [List.isEmpty_eq_false_iff]
    exact List.ne_nil_of_mem listed
  simp only [lift, unmoved, some]
  by_cases verbose : filter.verboseKeys.isEmpty <;> simp [verbose, Level.rank]

end Filter

/-! ## The records that pass -/

theorem mode?_cases (arguments : List String) :
    (mode? arguments = none ∧ "--verbose" ∉ arguments) ∨ mode? arguments = some "--quiet" ∨
      (mode? arguments = some "--verbose" ∧ "--verbose" ∈ arguments) := by
  cases last : mode? arguments with
  | none =>
    have none : arguments.filter IsMode = [] := List.getLast?_eq_none_iff.1 last
    refine .inl ⟨rfl, fun listed => ?_⟩
    have mode : "--verbose" ∈ arguments.filter IsMode := List.mem_filter.2 ⟨listed, by decide⟩
    rw [none] at mode
    cases mode
  | some mode =>
    obtain ⟨listed, isMode⟩ := List.mem_filter.1 (List.mem_of_getLast? last)
    rcases of_decide_eq_true isMode with rfl | rfl
    · exact .inr (.inl rfl)
    · exact .inr (.inr ⟨rfl, listed⟩)

/-- A record of this tag and level is asked for; errors and warnings always are. -/
def Asked (arguments : List String) (tag : Tag) : Level → Prop
  | .error => True
  | .warning => True
  | .info => mode? arguments ≠ some "--quiet"
  | .debug => mode? arguments = some "--verbose" ∨
      mode? arguments = none ∧
        (debugArgument tag.key ∈ arguments ∨ verboseArgument tag.key ∈ arguments)
  | .verbose => mode? arguments = some "--verbose" ∨
      mode? arguments = none ∧ verboseArgument tag.key ∈ arguments

theorem Tag.key_ne_empty (tag : Tag) : tag.key ≠ "" := by cases tag <;> decide

namespace Collects

variable {arguments : List String} {filter : Filter} (collects : Collects arguments filter)
  (tag : Tag) (level : Level)
include collects

theorem allows_quiet (mode : mode? arguments = some "--quiet") :
    filter.lift.allows tag level = true ↔ level = .error ∨ level = .warning := by
  have threshold := collects.threshold
  simp only [mode, if_true] at threshold
  rw [Filter.lift_of_mode (by rw [threshold]; decide), Filter.allows, threshold]
  cases level <;> simp [Level.rank, Filter.opens]

theorem allows_verbose (mode : mode? arguments = some "--verbose")
    (listed : "--verbose" ∈ arguments) : filter.lift.allows tag level = true := by
  have threshold := collects.threshold
  simp only [mode] at threshold
  rw [if_neg (by decide)] at threshold
  rw [Filter.lift_of_mode (by rw [threshold]; decide), Filter.allows, threshold]
  cases level <;>
    simp [Level.rank, Filter.opens, Filter.opensDebug, Filter.opensVerbose,
      collects.everyTag.2 listed]

/-- Without an argument for all tags the keys decide, although the key of another tag may have
lifted the threshold. -/
theorem allows_unset (mode : mode? arguments = none) (silent : "--verbose" ∉ arguments) :
    filter.lift.allows tag level = true ↔
      (level = .debug →
        debugArgument tag.key ∈ arguments ∨ verboseArgument tag.key ∈ arguments) ∧
      (level = .verbose → verboseArgument tag.key ∈ arguments) := by
  have unmoved := collects.threshold
  simp only [mode] at unmoved
  have everyTag := Bool.eq_false_iff.2 fun every => silent (collects.everyTag.1 every)
  have debug := collects.debugKeys tag.key
  have verbose := collects.verboseKeys tag.key
  simp only [tag.key_ne_empty, ne_eq, not_false_eq_true, and_true] at debug verbose
  have threshold := Filter.rank_threshold_lift unmoved
  obtain ⟨keptTag, keptDebug, keptVerbose⟩ := filter.keys_lift
  rw [← debug, ← verbose, Filter.allows]
  cases level with
  | error => simp
  | warning =>
    have below : Level.warning.rank ≤ Level.info.rank := by decide
    simp [Filter.opens, Nat.le_trans below threshold]
  | info => simp [Filter.opens, threshold]
  | debug =>
    have lifted : tag.key ∈ filter.debugKeys ∨ tag.key ∈ filter.verboseKeys →
        Level.debug.rank ≤ filter.lift.threshold.rank := by
      rintro (listed | listed)
      · exact Filter.rank_threshold_lift_debug unmoved listed
      · rw [Filter.threshold_lift_verbose unmoved listed]
        decide
    simpa [Filter.opens, Filter.opensDebug, keptTag, keptDebug, keptVerbose, everyTag] using lifted
  | verbose =>
    have lifted : tag.key ∈ filter.verboseKeys →
        Level.verbose.rank ≤ filter.lift.threshold.rank := fun listed =>
      Nat.le_of_eq (congrArg Level.rank (Filter.threshold_lift_verbose unmoved listed).symm)
    simpa [Filter.opens, Filter.opensVerbose, keptTag, keptVerbose, everyTag] using lifted

end Collects

theorem allows_iff_asked (arguments : List String) (tag : Tag) (level : Level) :
    (Filter.ofArguments arguments).allows tag level = true ↔ Asked arguments tag level := by
  have collects := collects_arguments arguments
  rw [Filter.ofArguments]
  rcases mode?_cases arguments with ⟨mode, silent⟩ | mode | ⟨mode, listed⟩
  · rw [collects.allows_unset tag level mode silent]
    cases level <;> simp [Asked, mode]
  · rw [collects.allows_quiet tag level mode]
    cases level <;> simp [Asked, mode]
  · simp only [collects.allows_verbose tag level mode listed, true_iff]
    cases level <;> simp [Asked, mode]

/-! ## The arguments that matter -/

/-- The arguments that matter to the records of a tag. -/
def Concerns (tag : Tag) (argument : String) : Prop :=
  IsMode argument ∨ argument = debugArgument tag.key ∨ argument = verboseArgument tag.key

instance (tag : Tag) : DecidablePred (Concerns tag) := fun argument =>
  inferInstanceAs (Decidable (IsMode argument ∨ argument = debugArgument tag.key ∨
    argument = verboseArgument tag.key))

theorem allows_congr {arguments others : List String} {tag : Tag}
    (mode : mode? others = mode? arguments)
    (debug : debugArgument tag.key ∈ others ↔ debugArgument tag.key ∈ arguments)
    (verbose : verboseArgument tag.key ∈ others ↔ verboseArgument tag.key ∈ arguments)
    (level : Level) :
    (Filter.ofArguments others).allows tag level =
      (Filter.ofArguments arguments).allows tag level := by
  rw [Bool.eq_iff_iff, allows_iff_asked, allows_iff_asked]
  cases level <;> simp only [Asked, mode, debug, verbose]

theorem mode?_filter (tag : Tag) (arguments : List String) :
    mode? (arguments.filter (Concerns tag)) = mode? arguments := by
  have modes : ∀ argument ∈ arguments,
      (decide (IsMode argument) && decide (Concerns tag argument)) = decide (IsMode argument) := by
    intro argument _
    by_cases mode : IsMode argument <;> simp [mode, Concerns]
  rw [mode?, List.filter_filter, List.filter_congr modes, mode?]

theorem mode?_insert {flag : String} (other : ¬IsMode flag) (before after : List String) :
    mode? (before ++ flag :: after) = mode? (before ++ after) := by
  simp [mode?, List.filter_append, other]

theorem not_isMode_debugArgument (key : String) : ¬IsMode (debugArgument key) := by
  rintro (same | same)
  all_goals
    have letters := congrArg String.toList same
    simp [debugArgument] at letters

theorem not_isMode_verboseArgument (key : String) : ¬IsMode (verboseArgument key) := by
  rintro (same | same)
  all_goals
    have letters := congrArg String.toList same
    simp [verboseArgument] at letters

/-- What passes, by the arguments; arguments that do not concern a tag change nothing for it, nor
does the order of those that do, apart from which one for all tags is the last. -/
theorem passes_as_asked (arguments : List String) :
    (∀ tag level, (Filter.ofArguments arguments).allows tag level = true ↔
      Asked arguments tag level) ∧
    (∀ tag level, (Filter.ofArguments (arguments.filter (Concerns tag))).allows tag level =
      (Filter.ofArguments arguments).allows tag level) ∧
    (∀ reordered, arguments.Perm reordered → mode? reordered = mode? arguments →
      ∀ tag level, (Filter.ofArguments reordered).allows tag level =
        (Filter.ofArguments arguments).allows tag level) ∧
    ∀ before after key flag, arguments = before ++ after →
      flag = debugArgument key ∨ flag = verboseArgument key →
      ∀ tag : Tag, tag.key ≠ key → ∀ level,
        (Filter.ofArguments (before ++ flag :: after)).allows tag level =
          (Filter.ofArguments arguments).allows tag level := by
  refine ⟨allows_iff_asked arguments, fun tag level => ?_, fun reordered perm mode tag level => ?_, ?_⟩
  · exact allows_congr (mode?_filter tag arguments) (by simp [Concerns]) (by simp [Concerns]) level
  · exact allows_congr mode perm.mem_iff.symm perm.mem_iff.symm level
  · rintro before after key flag rfl named tag other level
    have mode : ¬IsMode flag := by
      rcases named with rfl | rfl
      · exact not_isMode_debugArgument key
      · exact not_isMode_verboseArgument key
    have apart : debugArgument tag.key ≠ flag ∧ verboseArgument tag.key ≠ flag := by
      rcases named with rfl | rfl
      · exact ⟨fun same => other ((String.append_right_inj _).1 same),
          (debugArgument_ne_verboseArgument key tag.key).symm⟩
      · exact ⟨debugArgument_ne_verboseArgument tag.key key,
          fun same => other ((String.append_right_inj _).1 same)⟩
    exact allows_congr (mode?_insert mode before after) (by simp [apart.1]) (by simp [apart.2]) level

/-- The detail for one tag lifts the threshold of all, and yet another tag gets no more. -/
theorem passes_as_asked_lifted :
    let asked := ["--debug-poller", "--once"]
    let lifted := ["--debug-poller", "--verbose-fleet", "--once"]
    (Filter.ofArguments asked).threshold = .debug ∧
      (Filter.ofArguments lifted).threshold = .verbose ∧
      (Filter.ofArguments lifted).allows .fleet .verbose = true ∧
      ∀ level, (Filter.ofArguments lifted).allows .poller level =
        (Filter.ofArguments asked).allows .poller level :=
  ⟨by decide, by decide, by decide,
    (passes_as_asked ["--debug-poller", "--once"]).2.2.2 ["--debug-poller"] ["--once"] "fleet"
      "--verbose-fleet" rfl (.inr rfl) .poller (by decide)⟩

end FleetWatch.Log
