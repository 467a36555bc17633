import FleetWatch.CommandLine.Session
import Std.Time.DateTime.Timestamp

/-!
# The command

Runs a session on the files, the environment and the clock of the machine, in universal time.  This
build has no sockets: endpoints cannot be reached, and the web server cannot be bound.
-/

namespace FleetWatch.Command

def noSockets : String := "Function not implemented (os error 38)"

def now : IO Instant := do
  let nanos := (← Std.Time.Timestamp.now).toNanosecondsSinceUnixEpoch.val
  return ⟨nanos / 1000000000, (nanos % 1000000000).toNat⟩

def look (path : String) : IO FileState := do
  if FileTree.isTooLong path then return .hidden FileTree.tooLong
  try
    discard (IO.FS.realPath path)
  catch
    | .noFileOrDirectory .. => return .absent
    | e => return .hidden (toString e)
  try
    return .file (← IO.FS.readBinFile path).toList
  catch
    | .inappropriateType .. => return .folder
    | e => return .unreadable (toString e)

def openLog : IO (Log.FileOpening × Option IO.FS.Handle) := do
  try
    IO.FS.createDirAll Log.logFolder
  catch _ => return (.noFolder, none)
  try
    return (.opened, some (← IO.FS.Handle.mk Log.logPath .append))
  catch
    | .inappropriateType .. => return (.ofStates .absent .folder, none)
    | e => return (.refused (toString e), none)

structure Console where
  logger : Log.Logger
  colours : Bool
  file : Option IO.FS.Handle

def emit (console : Console) (output : Output) : IO Unit := do
  let t ← now
  if let some line := output.stdout? console.logger console.colours (t.clock 0) then
    IO.println line
    (← IO.getStdout).flush
  if let some line := output.stderr? then IO.eprintln line
  if let some line := output.file? console.logger (t.dateAndClock 0) then
    if let some handle := console.file then
      handle.putStrLn line
      handle.flush

/-- Lets the loop go on, period after period, and shows what it logs. -/
partial def keepWatching (console : Console) (plan : FetchPlan) (period : Nat) (t : Timeline) :
    IO Unit := do
  IO.sleep (UInt32.ofNat period)
  let t := t.advance plan (t.now + period)
  t.log.forM fun r => emit console (.record r)
  keepWatching console plan period { t with log := [], finished := [], fetched := [] }

def watch (console : Console) (around : Surroundings) (config : Config) (setup : Setup) :
    IO Unit := do
  match Session.serverStart around config.webserver with
  | .fault _ => (Session.watch around config setup 0).forM (emit console)
  | server =>
    (Session.serverRecords config.webserver server).forM fun r => emit console (.record r)
    let t := Session.watchStart around config setup
    t.log.forM fun r => emit console (.record r)
    keepWatching console (setup.client.plan around.network setup.endpoints)
      (Session.period config) { t with log := [], finished := [], fetched := [] }

def surroundings (arguments : List String) (opening : Log.FileOpening) : IO Surroundings := do
  let path := Arguments.configPath arguments
  let state ← look path
  return {
    look := fun p => if p = path then state else .absent
    logOpening := opening
    network := .unreachable ("error trying to connect: " ++ noSockets)
    bind := fun _ _ => .error (.other noSockets) }

def run (arguments : List String) : IO UInt32 := do
  if Arguments.wantsHelp arguments then
    Arguments.usage.forM IO.println
    return 0
  let (opening, file) ←
    if (Log.Filter.ofArguments arguments).toFile then openLog else pure (.opened, none)
  let around ← surroundings arguments opening
  let force ← IO.getEnv "CLICOLOR_FORCE"
  let refuse ← IO.getEnv "NO_COLOR"
  let wish ← IO.getEnv "CLICOLOR"
  let lookup (name : String) : Option String :=
    [("CLICOLOR_FORCE", force), ("NO_COLOR", refuse), ("CLICOLOR", wish)].lookup name |>.join
  let colours := Paint.wanted lookup (← (← IO.getStdout).isTty)
  let console : Console := ⟨Session.logger around arguments, colours, file⟩
  let (outputs, course) := Session.begin around arguments
  outputs.forM (emit console)
  match course with
  | .over exitCode => return exitCode
  | .once setup =>
    (Session.once around colours ((← now).clock 0) setup).forM (emit console)
    return 0
  | .watch config setup =>
    watch console around config setup
    return 0

end FleetWatch.Command

def main (arguments : List String) : IO UInt32 := FleetWatch.Command.run arguments
