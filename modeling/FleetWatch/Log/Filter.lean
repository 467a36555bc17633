import FleetWatch.Log.Level
import FleetWatch.Log.Tag
import FleetWatch.Text.Leading

/-!
# Log filters

Which records pass, as the arguments ask for it.  `--quiet` and `--verbose` set the threshold, the
last of them wins; an argument for one tag lifts the threshold just far enough, unless one of those
two has moved it, and lets only that tag through.

* `mem_insertKey`: what a set of keys holds after an insertion.
-/

namespace FleetWatch.Log

def insertKey (key : String) : List String → List String
  | [] => [key]
  | k :: ks =>
    if key = k then k :: ks else if key < k then key :: k :: ks else k :: insertKey key ks

theorem mem_insertKey {key x : String} {ks : List String} :
    x ∈ insertKey key ks ↔ x = key ∨ x ∈ ks := by
  induction ks with
  | nil => simp [insertKey]
  | cons k ks ih =>
    unfold insertKey
    split
    next h => simp [h]
    next =>
      split
      next => simp
      next => simp only [List.mem_cons, ih, or_left_comm]

structure Filter where
  threshold : Level := .info
  debugKeys : List String := []
  verboseKeys : List String := []
  everyTag : Bool := false
  toFile : Bool := true
deriving DecidableEq, Repr, Inhabited

namespace Filter

def takeArgument (filter : Filter) (argument : String) : Filter :=
  if argument = "--quiet" then { filter with threshold := .warning }
  else if argument = "--verbose" then { filter with threshold := .verbose, everyTag := true }
  else if argument = "--no-log-file" then { filter with toFile := false }
  else
    match keyAfter? "--debug-" argument, keyAfter? "--verbose-" argument with
    | some key, _ => { filter with debugKeys := insertKey key filter.debugKeys }
    | none, some key => { filter with verboseKeys := insertKey key filter.verboseKeys }
    | none, none => filter

/-- Lifts the threshold to the detail that single tags ask for, if it is where it began. -/
def lift (filter : Filter) : Filter :=
  if filter.threshold ≠ .info then filter
  else if !filter.verboseKeys.isEmpty then { filter with threshold := .verbose }
  else if !filter.debugKeys.isEmpty then { filter with threshold := .debug }
  else filter

def ofArguments (arguments : List String) : Filter := (arguments.foldl takeArgument {}).lift

def opensDebug (filter : Filter) (tag : Tag) : Bool :=
  filter.everyTag || filter.debugKeys.contains tag.key || filter.verboseKeys.contains tag.key

def opensVerbose (filter : Filter) (tag : Tag) : Bool :=
  filter.everyTag || filter.verboseKeys.contains tag.key

/-- The tag opens the level; only detail has to be opened. -/
def opens (filter : Filter) (tag : Tag) : Level → Bool
  | .debug => filter.opensDebug tag
  | .verbose => filter.opensVerbose tag
  | _ => true

/-- A record of this tag and level passes; errors always do. -/
def allows (filter : Filter) (tag : Tag) (level : Level) : Bool :=
  level = .error || (level.rank ≤ filter.threshold.rank && filter.opens tag level)

theorem allows_error (filter : Filter) (tag : Tag) : filter.allows tag .error = true := by
  simp [allows]

end Filter
end FleetWatch.Log
