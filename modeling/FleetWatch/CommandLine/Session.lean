import FleetWatch.Api.Server
import FleetWatch.CommandLine.Arguments
import FleetWatch.Config.Store
import FleetWatch.Console.Render
import FleetWatch.Fleet.Setup
import FleetWatch.Fleet.Timeline
import FleetWatch.Log.Logger

/-!
# Sessions

A run of the program, from its arguments and what it finds around it to its output and exit code.
A session explains the arguments, or prints one board, or watches the fleet until it is interrupted.
-/

namespace FleetWatch

structure Surroundings where
  look : String → FileState
  logOpening : Log.FileOpening
  network : Http.Network
  /-- The port that a server gets that asks for one on a host. -/
  bind : String → UInt16 → Except BindFault UInt16

inductive Output where
  | text (line : String)
  | record (record : Log.Record)
  | complaint (line : String)
deriving DecidableEq, Repr, Inhabited

namespace Session

def announcement (keys : List String) : List Log.Record :=
  if keys.isEmpty then []
  else [⟨.system, .info, "Debug enabled for: " ++ String.intercalate ", " keys⟩]

def startRecord (config : Config) : Log.Record :=
  ⟨.system, .info,
    "FleetBoard starting (" ++ toString config.endpoints.length ++ " endpoints, refresh every " ++
      toString config.dashboard.refreshIntervalMs ++ "ms)"⟩

def stopRecord : Log.Record := ⟨.system, .info, "FleetBoard stopped"⟩

def failureRecord (e : SetupError) : Log.Record :=
  ⟨.system, .error, "FleetBoard failed: " ++ e.message⟩

inductive Course where
  | over (exitCode : UInt32)
  | once (setup : Setup)
  | watch (config : Config) (setup : Setup)

def logger (around : Surroundings) (arguments : List String) : Log.Logger :=
  Log.Logger.start {} arguments around.logOpening

def prepare (arguments : List String) (config : Config) : List Log.Record × Course :=
  let once := Arguments.wantsOnce arguments
  let before := (if once then [] else [startRecord config]) ++ Setup.records config
  match Setup.ofConfig config with
  | .error e => (before ++ [failureRecord e], .over 1)
  | .ok setup => (before, if once then .once setup else .watch config setup)

/-- The start of a session, up to where its course is clear. -/
def begin (around : Surroundings) (arguments : List String) : List Output × Course :=
  if Arguments.wantsHelp arguments then (Arguments.usage.map .text, .over 0)
  else
    let path := Arguments.configPath arguments
    let state := around.look path
    let store : ConfigStore := {}
    let warning := (Log.Logger.startWarning? arguments around.logOpening).toList
    let records := announcement (Arguments.debugKeys arguments) ++ store.provideRecords path state
    let (more, course) : List Log.Record × Course :=
      match (store.provide path state).2 with
      | .error e => ([⟨.config, .error, e.message⟩], .over 1)
      | .ok config => prepare arguments config
    (warning.map Output.complaint ++ (records ++ more).map Output.record, course)

def once (around : Surroundings) (colours : Bool) (clock : String) (setup : Setup) : List Output :=
  let t := (Timeline.ofEndpoints setup.endpoints).runCycle
    (setup.client.plan around.network setup.endpoints)
  let board := (t.refresh.slot.map (·.board)).getD Board.empty
  t.log.map .record ++ [.text (Render.text colours clock board)]

/-! ## Watching -/

/-- The period of the loop: at least a millisecond. -/
def period (config : Config) : Nat := max 1 config.dashboard.refreshIntervalMs.toNat

def watchStart (around : Surroundings) (config : Config) (setup : Setup) : Timeline :=
  (Timeline.ofEndpoints setup.endpoints).start
    (setup.client.plan around.network setup.endpoints) (period config)

inductive ServerStart where
  | disabled
  | listening (port : UInt16)
  | fault (fault : BindFault)
deriving DecidableEq, Repr

def serverStart (around : Surroundings) (w : Webserver) : ServerStart :=
  if w.enabled then
    match around.bind w.host w.port with
    | .ok port => .listening port
    | .error fault => .fault fault
  else .disabled

def serverRecords (w : Webserver) : ServerStart → List Log.Record
  | .disabled => [Webserver.disabled]
  | .listening port => Webserver.startRecords w.host port
  | .fault fault => [w.faultRecord fault]

def serverEndRecords : ServerStart → List Log.Record
  | .listening _ => Webserver.stopRecords
  | _ => []

/-- Watching until the interrupt comes, so many milliseconds after the start; a web server that
cannot start interrupts at once. -/
def watch (around : Surroundings) (config : Config) (setup : Setup) (interruptAt : Nat) :
    List Output :=
  let server := serverStart around config.webserver
  let lastMoment := match server with
    | .fault _ => 0
    | _ => interruptAt
  let t := ((watchStart around config setup).advance
    (setup.client.plan around.network setup.endpoints) lastMoment).stop
  (serverRecords config.webserver server ++ t.log ++ serverEndRecords server ++
    [stopRecord]).map .record

/-! ## A whole session -/

structure Result where
  outputs : List Output
  logger : Log.Logger
  exitCode : UInt32

def run (around : Surroundings) (colours : Bool) (clock : String) (arguments : List String)
    (interruptAt : Nat) : Result :=
  let (outputs, course) := begin around arguments
  let help := Arguments.wantsHelp arguments
  let logger := if help then {} else logger around arguments
  match course with
  | .over exitCode => ⟨outputs, logger, exitCode⟩
  | .once setup => ⟨outputs ++ once around colours clock setup, logger, 0⟩
  | .watch config setup => ⟨outputs ++ watch around config setup interruptAt, logger, 0⟩

end Session

/-! ## Where output goes -/

namespace Output

def stdout? (logger : Log.Logger) (colours : Bool) (clock : String) : Output → Option String
  | text line => some line
  | record r => if r.passes logger.filter then some (r.consoleText colours clock) else none
  | complaint _ => none

def stderr? : Output → Option String
  | complaint line => some line
  | _ => none

def file? (logger : Log.Logger) (moment : String) : Output → Option String
  | record r =>
    if logger.fileOpen && r.passes logger.filter then some (r.fileText moment) else none
  | _ => none

end Output
end FleetWatch
