import FleetWatch.Config.Store
import FleetWatch.Proofs.Storage.Paths
import Mathlib.Data.List.Induction

/-!
# Loading the configuration of a process

A process may load its configuration as often as it likes and read it at any time.  The first file
that gives a configuration is taken, and from then on nothing else is; until then the defaults are
read, and a file that gives none leaves everything as it was.  A file that is there but not seen
gives the defaults, as one that is not there does.

* `Config.ofFile_eq_ok_iff`, `Config.ofFile_eq_error_iff`: what a file gives, or what is wrong with it.
* `StoreHolds.next`: what one call does to the store.
* `loaded_once`: reads and loads after any calls.
* `hidden_file_takes_defaults`: a file with a fault, behind a path that is too long.
-/

namespace FleetWatch

/-! ## Files -/

namespace Config

/-- What a file gives: the defaults where none is seen, or what its text writes. -/
inductive Gives : FileState → Config → Prop where
  | unseen {state : FileState} (unseen : state.Unseen) : Gives state {}
  | written {content : Bytes} {text : String} {config : Config} (spelled : content = Utf8.encode text)
      (parsed : Config.parse text = .ok config) : Gives (.file content) config

/-- What is wrong with a file that is seen. -/
inductive Fault (path : String) : FileState → ConfigFileError → Prop where
  | unreadable (reason : String) : Fault path (.unreadable reason) (.unreadable path reason)
  | notText {content : Bytes} (unspelled : ∀ text, content ≠ Utf8.encode text) :
      Fault path (.file content) (.unreadable path "stream did not contain valid UTF-8")
  | notConfig {content : Bytes} {text : String} {e : ConfigTextError}
      (spelled : content = Utf8.encode text) (parsed : Config.parse text = .error e) :
      Fault path (.file content) (.unusable path text e)

theorem ofFile_of_unseen (path : String) {state : FileState} (unseen : state.Unseen) :
    ofFile path state = .ok {} := by
  rw [ofFile, FileState.unseen_iff.1 unseen]
  rfl

theorem ofFile_eq_ok_iff (path : String) (state : FileState) (config : Config) :
    ofFile path state = .ok config ↔ Gives state config := by
  constructor
  · intro read
    cases state with
    | absent =>
      cases read
      exact .unseen .absent
    | hidden reason =>
      cases read
      exact .unseen (.hidden reason)
    | unreadable reason => cases read
    | file content =>
      change ofContent path content = .ok config at read
      rw [ofContent] at read
      cases decoded : Utf8.decode? content with
      | none =>
        rw [decoded] at read
        cases read
      | some text =>
        rw [decoded] at read
        refine .written (Utf8.decode?_eq_some_iff.1 decoded) ?_
        cases parsed : Config.parse text with
        | error e =>
          simp only [parsed] at read
          cases read
        | ok parsed' =>
          simp only [parsed] at read
          cases read
          rfl
  · rintro (unseen | ⟨spelled, parsed⟩)
    · exact ofFile_of_unseen path unseen
    · change ofContent path _ = .ok config
      simp only [ofContent, Utf8.decode?_eq_some_iff.2 spelled, parsed]
      rfl

theorem ofFile_eq_error_iff (path : String) (state : FileState) (e : ConfigFileError) :
    ofFile path state = .error e ↔ Fault path state e := by
  constructor
  · intro read
    cases state with
    | absent => cases read
    | hidden reason => cases read
    | unreadable reason =>
      cases read
      exact .unreadable reason
    | file content =>
      change ofContent path content = .error e at read
      rw [ofContent] at read
      cases decoded : Utf8.decode? content with
      | none =>
        rw [decoded] at read
        cases read
        refine .notText fun text spelled => ?_
        rw [Utf8.decode?_eq_some_iff.2 spelled] at decoded
        cases decoded
      | some text =>
        rw [decoded] at read
        cases parsed : Config.parse text with
        | error e' =>
          simp only [parsed] at read
          cases read
          exact .notConfig (Utf8.decode?_eq_some_iff.1 decoded) parsed
        | ok config =>
          simp only [parsed] at read
          cases read
  · intro fault
    cases fault with
    | unreadable reason => rfl
    | notText unspelled =>
      have undecoded : Utf8.decode? _ = none := Option.eq_none_iff_forall_ne_some.2
        fun text decoded => unspelled text (Utf8.decode?_eq_some_iff.1 decoded)
      change ofContent path _ = _
      simp only [ofContent, undecoded]
    | notConfig spelled parsed =>
      change ofContent path _ = _
      simp only [ofContent, Utf8.decode?_eq_some_iff.2 spelled, parsed]
      rfl

theorem exists_gives_or_fault (path : String) (state : FileState) :
    (∃ config, Gives state config) ∨ ∃ e, Fault path state e := by
  cases read : ofFile path state with
  | ok config => exact .inl ⟨config, (ofFile_eq_ok_iff path state config).1 read⟩
  | error e => exact .inr ⟨e, (ofFile_eq_error_iff path state e).1 read⟩

theorem Fault.not_gives {path : String} {state : FileState} {e : ConfigFileError}
    (fault : Fault path state e) (config : Config) : ¬Gives state config := by
  intro gives
  have read := (ofFile_eq_error_iff path state e).2 fault
  rw [(ofFile_eq_ok_iff path state config).2 gives] at read
  cases read

theorem Gives.unique {state : FileState} {c c' : Config} (gives : Gives state c)
    (gives' : Gives state c') : c = c' := by
  have read := (ofFile_eq_ok_iff "" state c).2 gives
  rw [(ofFile_eq_ok_iff "" state c').2 gives'] at read
  exact (Except.ok.inj read).symm

end Config

/-! ## Calls -/

/-- A call on the configuration of a process; what a reader makes of it is left open. -/
inductive ConfigCall (α : Type) where
  | load (path : String) (state : FileState)
  | read (use : Config → α)
  | clone

inductive ConfigAnswer (α : Type) where
  | loaded (records : List Log.Record) (result : Except ConfigFileError Unit)
  | used (value : α)
  | cloned (config : Config)

namespace ConfigStore

variable {α : Type}

def answer (store : ConfigStore) : ConfigCall α → ConfigAnswer α
  | .load path state => .loaded (Config.fileRecords path state) (store.load path state).2
  | .read use => .used (use store.current)
  | .clone => .cloned store.current

def next (store : ConfigStore) : ConfigCall α → ConfigStore
  | .load path state => (store.load path state).1
  | _ => store

def after (calls : List (ConfigCall α)) : ConfigStore := calls.foldl next {}

theorem after_concat (calls : List (ConfigCall α)) (call : ConfigCall α) :
    after (calls ++ [call]) = (after calls).next call := by
  rw [after, List.foldl_append]
  rfl

/-! ## One load -/

variable (store : ConfigStore) {path : String} {state : FileState}

theorem load_of_fault {e : ConfigFileError} (fault : Config.Fault path state e) :
    store.load path state = (store, .error e) := by
  rw [load, (Config.ofFile_eq_error_iff path state e).2 fault]

theorem load_of_gives {config : Config} (gives : Config.Gives state config) :
    store.load path state =
      match store.loaded with
      | none => (⟨some config⟩, .ok ())
      | some _ => (store, .error .alreadyLoaded) := by
  rw [load, (Config.ofFile_eq_ok_iff path state config).2 gives]
  cases store.loaded <;> rfl

end ConfigStore

/-! ## The configuration in force -/

section

variable {α : Type}

/-- No call has loaded a file that gives a configuration. -/
def Unloaded (calls : List (ConfigCall α)) : Prop :=
  ∀ path state, .load path state ∈ calls → ∀ config, ¬Config.Gives state config

/-- The first file that gives a configuration gives this one. -/
def FirstLoaded (calls : List (ConfigCall α)) (config : Config) : Prop :=
  ∃ before path state later, calls = before ++ .load path state :: later ∧ Unloaded before ∧
    Config.Gives state config

def InForce (calls : List (ConfigCall α)) (config : Config) : Prop :=
  Unloaded calls ∧ config = {} ∨ FirstLoaded calls config

/-- The store holds what these calls have loaded. -/
def StoreHolds (calls : List (ConfigCall α)) (store : ConfigStore) : Prop :=
  match store.loaded with
  | none => Unloaded calls
  | some config => FirstLoaded calls config

theorem FirstLoaded.append {calls : List (ConfigCall α)} {config : Config}
    (first : FirstLoaded calls config) (more : List (ConfigCall α)) :
    FirstLoaded (calls ++ more) config := by
  obtain ⟨before, path, state, later, rfl, unloaded, gives⟩ := first
  exact ⟨before, path, state, later ++ more, by simp, unloaded, gives⟩

theorem FirstLoaded.not_unloaded {calls : List (ConfigCall α)} {config : Config}
    (first : FirstLoaded calls config) : ¬Unloaded calls := by
  obtain ⟨before, path, state, later, rfl, -, gives⟩ := first
  exact fun unloaded => unloaded path state (by simp) config gives

/-- The call loads no file that gives a configuration. -/
def Idle (call : ConfigCall α) : Prop :=
  ∀ path state, call = .load path state → ∀ config, ¬Config.Gives state config

theorem unloaded_concat {calls : List (ConfigCall α)} {call : ConfigCall α} :
    Unloaded (calls ++ [call]) ↔ Unloaded calls ∧ Idle call := by
  constructor
  · refine fun unloaded => ⟨fun path state member => unloaded path state (by simp [member]), ?_⟩
    rintro path state rfl
    exact unloaded path state (by simp)
  · rintro ⟨unloaded, idle⟩ path state member
    simp only [List.mem_append, List.mem_singleton] at member
    rcases member with member | same
    · exact unloaded path state member
    · exact idle path state same.symm

theorem idle_of_fault {path : String} {state : FileState} {e : ConfigFileError}
    (fault : Config.Fault path state e) : Idle (α := α) (.load path state) := by
  rintro _ _ ⟨⟩
  exact fault.not_gives

theorem StoreHolds.idle {calls : List (ConfigCall α)} {store : ConfigStore}
    (holds : StoreHolds calls store)
    {call : ConfigCall α} (idle : Idle call) : StoreHolds (calls ++ [call]) store := by
  cases loaded : store.loaded with
  | none =>
    simp only [StoreHolds, loaded] at holds ⊢
    exact unloaded_concat.2 ⟨holds, idle⟩
  | some held =>
    simp only [StoreHolds, loaded] at holds ⊢
    exact holds.append _

theorem StoreHolds.load {calls : List (ConfigCall α)} {store : ConfigStore}
    (holds : StoreHolds calls store)
    {path : String} {state : FileState} {config : Config} (gives : Config.Gives state config) :
    StoreHolds (calls ++ [.load path state]) (store.load path state).1 := by
  rw [store.load_of_gives gives]
  cases loaded : store.loaded with
  | none =>
    simp only [StoreHolds, loaded] at holds
    exact ⟨calls, path, state, [], rfl, holds, gives⟩
  | some held =>
    simp only [StoreHolds, loaded] at holds ⊢
    exact holds.append _

theorem StoreHolds.next {calls : List (ConfigCall α)} {store : ConfigStore}
    (holds : StoreHolds calls store)
    (call : ConfigCall α) : StoreHolds (calls ++ [call]) (store.next call) := by
  cases call with
  | load path state =>
    rcases Config.exists_gives_or_fault path state with ⟨config, gives⟩ | ⟨e, fault⟩
    · exact holds.load gives
    · rw [ConfigStore.next, store.load_of_fault fault]
      exact holds.idle (idle_of_fault fault)
  | read use => exact holds.idle (by rintro _ _ ⟨⟩)
  | clone => exact holds.idle (by rintro _ _ ⟨⟩)

theorem holds_after (calls : List (ConfigCall α)) : StoreHolds calls (ConfigStore.after calls) := by
  induction calls using List.reverseRecOn with
  | nil => exact fun path state member => absurd member List.not_mem_nil
  | append_singleton calls call ih =>
    rw [ConfigStore.after_concat]
    exact ih.next call

namespace ConfigStore

theorem loaded_eq_none_iff (calls : List (ConfigCall α)) :
    (after calls).loaded = none ↔ Unloaded calls := by
  have holds := holds_after calls
  cases loaded : (after calls).loaded with
  | none =>
    simp only [StoreHolds, loaded] at holds
    exact iff_of_true rfl holds
  | some config =>
    simp only [StoreHolds, loaded] at holds
    exact iff_of_false (Option.some_ne_none config) holds.not_unloaded

theorem firstLoaded_of_loaded {calls : List (ConfigCall α)} {config : Config}
    (loaded : (after calls).loaded = some config) : FirstLoaded calls config := by
  have holds := holds_after calls
  simpa only [StoreHolds, loaded] using holds

theorem inForce_current (calls : List (ConfigCall α)) : InForce calls (after calls).current := by
  rw [current]
  cases loaded : (after calls).loaded with
  | none => exact .inl ⟨(loaded_eq_none_iff calls).1 loaded, rfl⟩
  | some config => exact .inr (firstLoaded_of_loaded loaded)

end ConfigStore

/-- Of two first loads neither comes later. -/
theorem FirstLoaded.unique {calls : List (ConfigCall α)} {c c' : Config}
    (first : FirstLoaded calls c) (first' : FirstLoaded calls c') : c = c' := by
  obtain ⟨before, path, state, later, rfl, unloaded, gives⟩ := first
  obtain ⟨before', path', state', later', split, unloaded', gives'⟩ := first'
  rcases List.append_eq_append_iff.1 split with ⟨middle, rfl, rest⟩ | ⟨middle, rfl, rest⟩
  · cases middle with
    | nil =>
      cases rest
      exact gives.unique gives'
    | cons call middle =>
      cases rest
      exact absurd gives (unloaded' path state (by simp) c)
  · cases middle with
    | nil =>
      cases rest
      exact gives.unique gives'
    | cons call middle =>
      cases rest
      exact absurd gives' (unloaded path' state' (by simp) c')

theorem InForce.unique {calls : List (ConfigCall α)} {c c' : Config} (inForce : InForce calls c)
    (inForce' : InForce calls c') : c = c' := by
  rcases inForce with ⟨unloaded, rfl⟩ | first
  · rcases inForce' with ⟨-, rfl⟩ | first'
    · rfl
    · exact absurd unloaded first'.not_unloaded
  · rcases inForce' with ⟨unloaded, -⟩ | first'
    · exact absurd unloaded first.not_unloaded
    · exact first.unique first'

/-! ## The statement -/

namespace ConfigStore

/-- How a load behind these calls ends: what is wrong with its own file comes first. -/
theorem load_after (calls : List (ConfigCall α)) (path : String) (state : FileState) :
    (((after calls).load path state).2 = .ok () ↔
      Unloaded calls ∧ ∃ config, Config.Gives state config) ∧
    ∀ e, ((after calls).load path state).2 = .error e ↔
      Config.Fault path state e ∨
        e = .alreadyLoaded ∧ ¬Unloaded calls ∧ ∃ config, Config.Gives state config := by
  rw [← loaded_eq_none_iff]
  rcases Config.exists_gives_or_fault path state with ⟨config, gives⟩ | ⟨e, fault⟩
  · have sound : ∀ e, ¬Config.Fault path state e := fun e fault => fault.not_gives config gives
    have given : ∃ config, Config.Gives state config := ⟨config, gives⟩
    rw [load_of_gives _ gives]
    cases (after calls).loaded with
    | none => simp [given, sound]
    | some held => simp [given, sound, eq_comm]
  · have nothing : ¬∃ config, Config.Gives state config := fun ⟨config, gives⟩ =>
      fault.not_gives config gives
    rw [load_of_fault _ fault]
    simp only [nothing, and_false, or_false, reduceCtorEq, Except.error.injEq, true_and]
    refine fun other => ⟨fun same => same ▸ fault, fun fault' => ?_⟩
    have read := (Config.ofFile_eq_error_iff path state e).2 fault
    rw [(Config.ofFile_eq_error_iff path state other).2 fault'] at read
    exact (Except.error.inj read).symm

theorem after_refused {calls : List (ConfigCall α)} {path : String} {state : FileState}
    {e : ConfigFileError} (refused : ((after calls).load path state).2 = .error e) :
    after (calls ++ [.load path state]) = after calls := by
  rw [after_concat, next]
  rcases Config.exists_gives_or_fault path state with ⟨config, gives⟩ | ⟨e, fault⟩
  · rw [load_of_gives _ gives] at refused ⊢
    cases loaded : (after calls).loaded with
    | none =>
      rw [loaded] at refused
      cases refused
    | some held => rfl
  · rw [load_of_fault _ fault]

end ConfigStore

theorem Config.gives_iff_written {state : FileState} (seen : ¬state.Unseen) (config : Config) :
    Gives state config ↔
      ∃ text, state = .file (Utf8.encode text) ∧ Config.parse text = .ok config := by
  constructor
  · rintro (unseen | ⟨rfl, parsed⟩)
    · exact absurd unseen seen
    · exact ⟨_, rfl, parsed⟩
  · rintro ⟨text, rfl, parsed⟩
    exact .written rfl parsed

/-- What one look at a path comes to. -/
structure Config.FileLoads (path : String) (state : FileState) : Prop where
  unseen : state.Unseen → ofFile path state = .ok {} ∧ fileRecords path state = [notFound path]
  seen : ¬state.Unseen → fileRecords path state = [] ∧ ∀ config, ofFile path state = .ok config ↔
    ∃ text, state = .file (Utf8.encode text) ∧ Config.parse text = .ok config

theorem Config.fileLoads (path : String) (state : FileState) : FileLoads path state where
  unseen unseen := by
    rw [fileRecords, FileState.unseen_iff.1 unseen]
    exact ⟨ofFile_of_unseen path unseen, rfl⟩
  seen seen := by
    have found : state.isSeen = true := by simpa [FileState.unseen_iff] using seen
    rw [fileRecords, if_pos found]
    exact ⟨rfl, fun config => (ofFile_eq_ok_iff path state config).trans
      (gives_iff_written seen config)⟩

/-- The configuration that every read behind these calls is given. -/
structure ReadsGive (calls : List (ConfigCall α)) (config : Config) : Prop where
  inForce : InForce calls config
  only : ∀ other, InForce calls other → other = config
  used : ∀ use : Config → α, (ConfigStore.after calls).answer (.read use) = .used (use config)
  cloned : (ConfigStore.after calls).answer (.clone : ConfigCall α) = .cloned config

/-- How a load behind these calls ends: what is wrong with its own file comes first. -/
structure LoadEnds (calls : List (ConfigCall α)) (path : String) (state : FileState)
    (result : Except ConfigFileError Unit) : Prop where
  answered : (ConfigStore.after calls).answer (.load path state : ConfigCall α) =
    .loaded (Config.fileRecords path state) result
  ok_iff : result = .ok () ↔ Unloaded calls ∧ ∃ config, Config.Gives state config
  error_iff : ∀ e, result = .error e ↔ Config.Fault path state e ∨
    e = .alreadyLoaded ∧ ¬Unloaded calls ∧ ∃ config, Config.Gives state config
  unchanged : ∀ e, result = .error e →
    ConfigStore.after (calls ++ [.load path state]) = ConfigStore.after calls

/-- What is read and how a load ends, after these calls. -/
structure LoadedOnce (calls : List (ConfigCall α)) : Prop where
  reads : ∃ config, ReadsGive calls config
  loads : ∀ path state, ∃ result, LoadEnds calls path state result
  /-- A file with a fault leaves the way free for another one. -/
  retries : ∀ path state e, Config.Fault path state e →
    (Unloaded (calls ++ [.load path state]) ↔ Unloaded calls)
  defaults : (ConfigStore.after calls).loaded = some {} →
    ∃ path state, .load path state ∈ calls ∧ (state.Unseen ∨
      ∃ text, state = .file (Utf8.encode text) ∧ Config.parse text = .ok {})
  files : ∀ path state, Config.FileLoads path state

theorem loaded_once (calls : List (ConfigCall α)) : LoadedOnce calls where
  reads := by
    have inForce := ConfigStore.inForce_current calls
    exact ⟨_, inForce, fun other current => current.unique inForce, fun use => rfl, rfl⟩
  loads path state := by
    obtain ⟨succeeds, fails⟩ := ConfigStore.load_after calls path state
    exact ⟨_, rfl, succeeds, fails, fun e => ConfigStore.after_refused⟩
  retries path state e fault := by
    rw [unloaded_concat]
    exact and_iff_left (idle_of_fault fault)
  defaults loaded := by
    obtain ⟨before, path, state, later, rfl, -, gives⟩ := ConfigStore.firstLoaded_of_loaded loaded
    refine ⟨path, state, by simp, ?_⟩
    by_cases unseen : state.Unseen
    · exact .inl unseen
    · exact .inr ((Config.gives_iff_written unseen {}).1 gives)
  files := Config.fileLoads

end

def brokenFile : FileState := .file (Utf8.encode "[webserver\n")

def portFile : FileState := .file (Utf8.encode "[webserver]\nport = 80\n")

/-- A text that is no document leaves the way free for the next file, which then stays; a file that
cannot be seen comes too late. -/
theorem loaded_once_port :
    let calls : List (ConfigCall UInt16) := [.load "a" brokenFile, .load "b" portFile]
    Config.Fault "a" brokenFile (.unusable "a" "[webserver\n" .notToml) ∧
    Unloaded [(.load "a" brokenFile : ConfigCall UInt16)] ∧
    (ConfigStore.after calls).answer (.read (·.webserver.port)) = .used 80 ∧
    ((ConfigStore.after calls).load "c" (.hidden "Permission denied (os error 13)")).2 =
      .error .alreadyLoaded := by
  intro calls
  have broken : Config.parse "[webserver\n" = .error .notToml := by decide +kernel
  have written : Config.parse "[webserver]\nport = 80\n" = .ok { webserver := { port := 80 } } := by
    decide +kernel
  have fault : Config.Fault "a" brokenFile _ := .notConfig rfl broken
  have unloaded : Unloaded [(.load "a" brokenFile : ConfigCall UInt16)] :=
    ((loaded_once []).retries "a" brokenFile _ fault).2 fun path state member =>
      absurd member List.not_mem_nil
  have first : FirstLoaded calls { webserver := { port := 80 } } :=
    ⟨[.load "a" brokenFile], "b", portFile, [], rfl, unloaded, .written rfl written⟩
  obtain ⟨⟨config, reads⟩, loads, -⟩ := loaded_once calls
  refine ⟨fault, unloaded, ?_, ?_⟩
  · rw [reads.used, ← reads.only _ (.inr first)]
  · obtain ⟨result, ends⟩ := loads "c" (.hidden "Permission denied (os error 13)")
    have same : ((ConfigStore.after calls).load "c" _).2 = result :=
      (ConfigAnswer.loaded.inj ends.answered).2
    rw [same, ends.error_iff]
    exact .inr ⟨rfl, first.not_unloaded, _, .unseen (.hidden _)⟩

/-- A working folder with a file that is no document. -/
def brokenTree : FileTree := { files := [(["config.toml"], Utf8.encode "[webserver\n")] }

theorem isRelative_config : FileTree.IsRelative "config.toml" := ⟨'c', rfl, by decide⟩

theorem find_config : brokenTree.find "config.toml" = brokenFile := by
  rw [brokenTree.find_of_relative isRelative_config]
  decide

/-- The file is there, and by its name alone it is refused; by a path that is too long it is taken
for one that is not there. -/
theorem hidden_file_takes_defaults :
    let long := FileTree.dots 2048 ++ "config.toml"
    brokenTree.find long = brokenFile ∧
    (Config.ofFile "config.toml" (brokenTree.look "config.toml")).toOption = none ∧
    brokenTree.look long = .hidden FileTree.tooLong ∧
    Config.ofFile long (brokenTree.look long) = .ok {} ∧
    Config.fileRecords long (brokenTree.look long) = [Config.notFound long] ∧
    ({} : ConfigStore).load long (brokenTree.look long) = (⟨some {}⟩, .ok ()) := by
  intro long
  have found : brokenTree.find long = brokenFile :=
    (brokenTree.find_behindDots isRelative_config 2048).trans find_config
  have looked : brokenTree.look long = .hidden FileTree.tooLong :=
    brokenTree.look_of_long (FileTree.isTooLong_dots (by decide) _) (by rw [found]; decide)
  have short : brokenTree.look "config.toml" = brokenFile := by
    rw [FileTree.look, find_config]
    decide
  have broken : Config.parse "[webserver\n" = .error .notToml := by decide +kernel
  have refused := (Config.ofFile_eq_error_iff "config.toml" brokenFile _).2 (.notConfig rfl broken)
  have loads := Config.fileLoads long (.hidden FileTree.tooLong)
  obtain ⟨defaults, warned⟩ := loads.unseen (.hidden FileTree.tooLong)
  rw [looked, short, refused]
  exact ⟨found, rfl, rfl, defaults, warned, ConfigStore.load_of_gives {} (.unseen (.hidden _))⟩

end FleetWatch
