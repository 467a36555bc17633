import FleetWatch.Config.File

/-!
# The loaded configuration

A process loads its configuration once.  Until then, and after a load that fails, the defaults
hold; after the first load that succeeds nothing changes it.
-/

namespace FleetWatch

structure ConfigStore where
  loaded : Option Config := none
deriving DecidableEq, Repr, Inhabited

namespace ConfigStore

def current (store : ConfigStore) : Config := store.loaded.getD {}

/-- Loads the configuration at a path; the file is read before the store is looked at. -/
def load (store : ConfigStore) (path : String) (state : FileState) :
    ConfigStore × Except ConfigFileError Unit :=
  match Config.ofFile path state, store.loaded with
  | .error e, _ => (store, .error e)
  | .ok _, some _ => (store, .error .alreadyLoaded)
  | .ok config, none => (⟨some config⟩, .ok ())

end ConfigStore

structure ConfigLoadError where
  path : String
  cause : ConfigFileError
deriving DecidableEq, Repr

def ConfigLoadError.message (e : ConfigLoadError) : String :=
  "Failed to load configuration from " ++ e.path ++ ": " ++ e.cause.message

namespace ConfigStore

def loadedRecord (path : String) : Log.Record :=
  ⟨.config, .debug, "Configuration loaded from " ++ path⟩

def provide (store : ConfigStore) (path : String) (state : FileState) :
    ConfigStore × Except ConfigLoadError Config :=
  match store.load path state with
  | (store, .error e) => (store, .error ⟨path, e⟩)
  | (store, .ok ()) => (store, .ok store.current)

def provideRecords (store : ConfigStore) (path : String) (state : FileState) : List Log.Record :=
  Config.fileRecords path state ++
    match (store.load path state).2 with
    | .ok () => [loadedRecord path]
    | .error _ => []

end ConfigStore
end FleetWatch
