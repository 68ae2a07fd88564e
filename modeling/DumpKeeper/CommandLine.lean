import DumpKeeper.CommandLine.Arguments
import DumpKeeper.Config.Load
import DumpKeeper.Cycle
import DumpKeeper.Endpoint
import DumpKeeper.Logging

/-!
# The command line

The program reads its settings, sets up the journal, starts the endpoint if it is wanted, connects
to the store and then makes backups until it is asked to stop.  The code that it ends with tells how
that went.

* `Ending` — the code, and what is printed.
* `loadConfig`, `setUpJournal` — the settings read, and the journal set up.
* `work` — everything for which the endpoint runs.
* `run` — all of it.
-/

set_option autoImplicit false

namespace DumpKeeper.CommandLine

/-- The code of a clean end. -/
def success : Nat := 0

/-- The code of a start that failed, or of a single cycle that did. -/
def failure : Nat := 1

/-- The code of settings that are refused. -/
def badConfig : Nat := 2

/-- How the program ends. -/
structure Ending where
  code : Nat
  output : String := ""
  complaint : String := ""
  deriving DecidableEq, Repr, Inhabited

/-- The end when something else than backups was asked for. -/
def Ending.ofAsked : Asked → Ending
  | .help => { code := success, output := help }
  | .version => { code := success, output := program ++ " " ++ version ++ "\n" }
  | .refuse r => { code := badConfig, complaint := r.text }

/-- The end when settings are refused for the reason `e`. -/
def Ending.ofConfigError (e : ConfigError) : Ending :=
  { code := badConfig, complaint := program ++ ": configuration error: " ++ e.message ++ "\n" }

/-- The settings of the file at `path` and the variables in `env`. -/
def loadConfig (path : String) (env : Environment) : Act Config := do
  let (result, journal) := (Config.load (← get).world.files (some path) env).run.run []
  journal.forM fun e => say e.level e.source e.message
  match result with
  | .ok c => return c
  | .error f => fail (.ofConfig f)

/-- The journal set up by its settings `s`. -/
def setUpJournal (s : LoggingSettings) : Act Unit := do
  match s.configure (← get).world.files with
  | .error f => fail (.ofConfig f)
  | .ok (logging, files) =>
    changeWorld fun w => { w with files := files }
    let level := logging.own.getD logging.base
    modify fun r => { r with level := level }
    let e := configuredEntry level
    say e.level e.source e.message

/-- The settings read and the journal set up by them. -/
def prepare (path : String) (env : Environment) : Act Config := do
  let config ← loadConfig path env
  setUpJournal config.logging
  return config

/-- The node must answer if its role matters under the settings `s`; the answer is whether all is
well. -/
def checkNode (s : RedisSettings) : Act Bool := do
  if s.roleMatters then
    match ← attempt (Replication.checkConnection s.connection) with
    | .ok () => return true
    | .error (.role e) =>
      say .error .commandLine ("Role detection is required but " ++ e.message)
      return false
    | .error f => fail f
  else return true

/-- The store of the target `t` connected, if that works. -/
def connectStore (t : StorageTarget) : Act (Option Store) := do
  match ← attempt (Store.connect t) with
  | .ok s => return some s
  | .error (.storage e) =>
    say .error .commandLine
      ("Failed to initialize " ++ e.backend.name ++ " backend: " ++ e.message)
    return none
  | .error f => fail f

/-- Backups made by `x` until the program is asked to stop, or just one with `once`; the answer is
the code. -/
def makeBackups (x : Executor) (once : Bool) (course : Schedule.Course) : Act Nat := do
  let c := x.config
  say .info .commandLine
    ("Backing up " ++ c.dumpPath.toString ++ " as node " ++ c.redis.nodeName ++ " to " ++
      c.storage.kind.name ++ "://" ++ c.storage.bucket ++ "/" ++ c.storage.cleanFolder)
  let scheduled :=
    Schedule.run runCycle true course x c.backup.interval c.backup.initialDelay once
  match ← attempt scheduled with
  | .ok succeeded => return if succeeded then success else failure
  | .error (.config e) =>
    say .error .commandLine ("Invalid schedule: " ++ e.message)
    return badConfig
  | .error f => fail f

/-- Everything for which the endpoint runs under the settings in `config`; the answer is the
code. -/
def work (config : Config) (once : Bool) (course : Schedule.Course) : Act Nat := do
  match ← connectStore config.storage with
  | none => return failure
  | some store =>
    if ← checkNode config.redis then makeBackups ⟨config, store⟩ once course
    else return failure

/-- The endpoint started if the settings `s` want it; the answer is whether it runs. -/
def startEndpoint (s : MetricsSettings) : Act Bool := do
  if s.enabled then Endpoint.start s
  else
    say .info .commandLine "Metrics server disabled"
    return false

/-- The settings in `config` in use: the endpoint started, backups made, and the endpoint
stopped. -/
def serve (config : Config) (once : Bool) (course : Schedule.Course) : Act Nat := do
  if !config.isShowable then fail (.broken .tooManyDigits)
  say .debug .commandLine ("Config: " ++ config.described)
  modify fun r => { r with counting := true }
  let served ← startEndpoint config.metrics
  Schedule.thenAlways (work config once course) (if served then Endpoint.stop else pure ())

/-- The program, given its arguments `args`, the variables in `env`, and what happens while it
waits, `course`. -/
def run (args : List String) (env : Environment) (course : Schedule.Course) : Act Ending := do
  match Arguments.parse args with
  | .error asked => return .ofAsked asked
  | .ok a =>
    match ← attempt (prepare a.path env) with
    | .error (.config e) => return .ofConfigError e
    | .error f => fail f
    | .ok config => return { code := ← serve config a.once course }

end DumpKeeper.CommandLine
