import GasMachine.Command.Arguments
import GasMachine.Log.Sink
/-
The program: arguments, surroundings and files in; output, exit status and files out.

Logs start first. `run` loads the settings even if the request is then refused; a refused request is told on standard
error and is no failure of the program, while settings that cannot be loaded or changed are. Log lines on standard output
come among the other output in the order of events.
-/
namespace GasMachine.Command

open Files (Tree)
open Log (Event)

/-- what the program has done so far -/
structure Session where
  env : Environment
  sinks : List Log.Sink
  stdout : String
  stderr : String
  files : Tree

/-- what the program has done in the end -/
structure Finished where
  exit : Nat
  stdout : String
  stderr : String
  files : Tree

namespace Session

/-- a line on standard output -/
def print (s : Session) (line : String) : Session := { s with stdout := s.stdout ++ line ++ "\n" }

/-- a line on standard error -/
def complain (s : Session) (line : String) : Session := { s with stderr := s.stderr ++ line ++ "\n" }

/-- an event written to a sink -/
def writeTo (e : Event) (s : Session) (sink : Log.Sink) : Session :=
  if sink.filter.passes e then
    let line := e.line sink.format sink.colours sink.targets s.env.time
    match sink.file with
    | none => s.print line
    | some place => { s with files := s.files.append place (line ++ "\n") }
  else s

/-- an event written to all sinks -/
def emit (s : Session) (e : Event) : Session := s.sinks.foldl (writeTo e) s

/-- the end, with an exit status -/
def finish (s : Session) (exit : Nat) : Finished := ⟨exit, s.stdout, s.stderr, s.files⟩

/-- the end after a failure -/
def fail (s : Session) (message : String) : Finished :=
  (s.complain ("Error: Generic(" ++ Text.Quoted.inDouble message ++ ")")).finish 1

end Session

/-! ## Events -/

/-- the target of what the program itself logs -/
def target : String := "lunar"

/-- the log file is in use -/
def loggingToFile (path : String) : Event :=
  ⟨.debug, "lunar_tracing", "writing logs to file", [("path", .text path)]⟩

/-- the settings file is made -/
def creatingSettings (path : String) : Event :=
  ⟨.debug, "lunar_config", "creating default configuration", [("path", .text path)]⟩

/-- a value of the settings was changed -/
def updatedSettings (key value : String) : Event :=
  ⟨.info, "lunar_config", "updated configuration! Set '" ++ key ++ "' = '" ++ value ++ "' .", []⟩

/-- how to change the settings -/
def settingsHint : Event :=
  ⟨.info, "lunar_config", "use `lunar config <KEY> <VALUE>` to set a key/value pair.", []⟩

/-- a key without a value -/
def valueMissing : Event :=
  ⟨.error, "lunar_config", "found key but no value to set. Please specify a value to set, " ++
    "use `lunar config --help` for more information.", []⟩

/-- a job is taken on -/
def takingOn (j : Job) : Event :=
  ⟨.debug, target ++ "::run", "executing bytecode",
    [("code_len", .number j.code.size), ("gas_limit", .number j.gasLimit.toNat), ("fork", .text j.fork.name)]⟩

/-- a request is refused -/
def refusing (e : RequestError) : Event := ⟨.debug, target, "refusing to execute", [("error", .text e.message)]⟩

/-- where events of runs come from -/
def machineTarget : String := "lunar_vm::core::vm::interpreter"

/-- a run starts -/
def runStarts (j : Job) : Event :=
  ⟨.debug, machineTarget, "starting run", [("code_len", .number j.code.size), ("gas_limit", .number j.gasLimit.toNat)]⟩

/-- a fault, or that there is none -/
def faultText : Option Fault → String
  | none => "None"
  | some f => "Some(" ++ f.tag ++ ")"

/-- a run halts -/
def runHalts (out : Outcome) : Event :=
  ⟨.debug, machineTarget, "run halted",
    [("gas_used", .number out.state.gasUsed.toNat), ("gas_refund", .number out.state.gasRemaining.toNat),
     ("memory_size", .number out.state.memory.byteLength.toNat), ("error", .text (faultText out.fault?))]⟩

/-! ## Tasks -/

namespace Session

/-- the settings loaded from below the home directory -/
def loadSettings (s : Session) : Except SettingsError Settings × Session :=
  let path := Settings.path s.env.home
  let s := if Settings.isStored s.files path then s else s.emit (creatingSettings path)
  let (result, files) := Settings.load s.files path
  (result, { s with files })

/-- a job done, and its report printed -/
def perform (s : Session) (j : Job) : Session :=
  let out := run j.code j.gasLimit
  let s := ((s.emit (takingOn j)).emit (runStarts j)).emit (runHalts out)
  s.print ((Report.ofOutcome out).render s.env.reportColours)

/-- the subcommand that runs code -/
def runTask (s : Session) (r : Request) : Finished :=
  match s.loadSettings with
  | (.error e, s) => s.fail ("failed to load configuration: " ++ e.message)
  | (.ok settings, s) =>
    match r.job settings with
    | .ok j => (s.perform j).finish 0
    | .error e => ((s.emit (refusing e)).complain (renderError s.env.reportColours e.message)).finish 0

/-- the settings shown -/
def showSettings (s : Session) : Finished :=
  match s.loadSettings with
  | (.error e, s) => s.fail ("failed to configure: " ++ e.message)
  | (.ok settings, s) => ((s.print settings.text).emit settingsHint).finish 0

/-- the settings changed -/
def changeSettings (s : Session) (key value : String) : Finished :=
  match s.loadSettings with
  | (.error e, s) => s.fail ("failed to configure: " ++ e.message)
  | (.ok settings, s) =>
    match settings.update s.files (Settings.path s.env.home) key value with
    | (.error e, _, files) => { s with files }.fail ("failed to configure: " ++ e.message)
    | (.ok (), _, files) => ({ s with files }.emit (updatedSettings key value)).finish 0

/-- the subcommand that shows and changes settings -/
def configTask (s : Session) (key value : String) : Finished :=
  if key = "" then s.showSettings
  else if value = "" then (s.emit valueMissing).finish 0
  else s.changeSettings key value

end Session

/-! ## The whole program -/

/-- the session after the logs have started -/
def startSession (env : Environment) (options : Log.Options) (files : Tree) : Session :=
  let started := Log.start options env files
  let s : Session := { env, sinks := started.sinks, stdout := "", stderr := "", files := started.files }
  let s := started.complaints.foldl Session.complain s
  match options.fileDirectory with
  | some directory => s.emit (loggingToFile (Files.join directory Log.fileName))
  | none => s

/-- the line that tells the version -/
def versionLine : String := "lunar 0.1.0"

/-- the line that tells how the program is used -/
def usageLine : String := "Usage: lunar [OPTIONS] <run|config>"

/-- the program, given what it is asked or why that cannot be told -/
def perform (env : Environment) (files : Tree) : Except Stop Invocation → Finished
  | .error .showVersion => ⟨0, versionLine ++ "\n", "", files⟩
  | .error .showHelp => ⟨0, usageLine ++ "\n", "", files⟩
  | .error _ => ⟨2, "", usageLine ++ "\n", files⟩
  | .ok invocation =>
    let s := startSession env invocation.logging files
    match invocation.task with
    | .run request => s.runTask request
    | .config key value => s.configTask key value

/-- the program, given its arguments -/
def invoke (env : Environment) (files : Tree) (args : List String) : Finished := perform env files (read args)

end GasMachine.Command
