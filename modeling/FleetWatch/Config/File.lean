import FleetWatch.Config.Document
import FleetWatch.Log.Record
import FleetWatch.Storage.FileTree

/-!
# Configuration files

Where a look at the path finds nothing, the defaults are given, with a warning; a file that is found
has to be read and understood, or there is no configuration.
-/

namespace FleetWatch

inductive ConfigFileError where
  | unreadable (path reason : String)
  | unusable (path text : String) (error : ConfigTextError)
  | alreadyLoaded
deriving DecidableEq, Repr

def ConfigFileError.message : ConfigFileError → String
  | unreadable path reason => "Failed to read config file '" ++ path ++ "': " ++ reason
  | unusable path text error => "Failed to parse config file '" ++ path ++ "': " ++ error.report text
  | alreadyLoaded => "Config already initialized"

namespace Config

def notFound (path : String) : Log.Record :=
  ⟨.config, .warning, "Config file '" ++ path ++ "' not found, using default values"⟩

def ofContent (path : String) (content : Bytes) : Except ConfigFileError Config :=
  match Utf8.decode? content with
  | none => .error (.unreadable path "stream did not contain valid UTF-8")
  | some text => (Config.parse text).mapError (.unusable path text)

def ofFile (path : String) (state : FileState) : Except ConfigFileError Config :=
  if state.isSeen then
    match state.read with
    | .error reason => .error (.unreadable path reason)
    | .ok content => ofContent path content
  else .ok {}

def fileRecords (path : String) (state : FileState) : List Log.Record :=
  if state.isSeen then [] else [notFound path]

end Config
end FleetWatch
