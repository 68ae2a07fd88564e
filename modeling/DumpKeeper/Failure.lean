import DumpKeeper.Clock
import DumpKeeper.Config.Error
import DumpKeeper.Service.Fault

/-!
# Failures

What can go wrong while backups are made, by cause.

* `StorageError`, `RoleError`, `DumpError`, `LifecycleError` — the errors that parts of the program
  report themselves.
* `Failure` — those, and everything that passes through unreported.
* `Failure.message` — the wording.
-/

set_option autoImplicit false

namespace DumpKeeper

/-- What a store was asked to do. -/
inductive StorageAction where
  | connect
  | upload (key : String)
  | list (beginning : String)
  | delete (key : String)
  deriving DecidableEq, Repr

/-- A store failed in a way that its backend counts on. -/
structure StorageError where
  backend : BackendKind
  action : StorageAction
  cause : ServiceFault
  deriving DecidableEq, Repr

/-- The code of an error that a store answered with, in brackets. -/
def ServiceFault.codeText : ServiceFault → String
  | .rejected code _ _ => " (" ++ code.getD unknownPart ++ ")"
  | _ => ""

/-- The wording of the error `e` of a store. -/
def StorageError.message (e : StorageError) : String :=
  let failed (what : String) : String :=
    e.backend.capitals ++ " " ++ what ++ " failed" ++ e.cause.codeText ++ ": " ++ e.cause.text
  match e.action with
  | .connect => "Failed to initialize " ++ e.backend.capitals ++ " client: " ++ e.cause.text
  | .upload key => failed ("upload of " ++ key)
  | .list beginning => failed ("list of " ++ beginning)
  | .delete key => failed ("delete of " ++ key)

/-- The role of the node cannot be found out. -/
inductive RoleError where
  | noClient (f : ServiceFault)
  | noAnswer (f : ServiceFault)
  | noSign (f : ServiceFault)
  deriving DecidableEq, Repr

/-- The wording of a role error. -/
def RoleError.message : RoleError → String
  | .noClient f => "Failed to create Redis client: " ++ f.text
  | .noAnswer f => "Failed to query Redis replication info: " ++ f.text
  | .noSign f => "Redis is not reachable: " ++ f.text

/-- The dump is there but cannot be had. -/
inductive DumpError where
  | inaccessible (path : String) (f : FileFault)
  | unreadable (path : String) (f : FileFault)
  deriving DecidableEq, Repr

/-- The wording of a dump error. -/
def DumpError.message : DumpError → String
  | .inaccessible path f => "Failed to access dump file " ++ path ++ ": " ++ f.message path
  | .unreadable path f => "Failed to read dump file " ++ path ++ ": " ++ f.message path

/-- The scheduler is used before it is set up. -/
inductive LifecycleError where
  | noRunner
  | noTimer
  deriving DecidableEq, Repr

/-- The wording of a misuse of the scheduler. -/
def LifecycleError.message : LifecycleError → String
  | .noRunner => "Scheduler not initialized"
  | .noTimer => "Scheduler not initialized. Call init_scheduler() first."

/-- All failures. -/
inductive Failure where
  | config (e : ConfigError)
  | broken (d : Defect)
  | storage (e : StorageError)
  | role (e : RoleError)
  | dump (e : DumpError)
  | lifecycle (e : LifecycleError)
  | unknownKind (name : String)
  | service (f : ServiceFault)
  | time (f : TimeFault)
  | mixedClocks
  deriving DecidableEq, Repr

/-- The wording of a failure. -/
def Failure.message : Failure → String
  | .config e => e.message
  | .broken _ => ""
  | .storage e => e.message
  | .role e => e.message
  | .dump e => e.message
  | .lifecycle e => e.message
  | .unknownKind name => "Unknown storage type: " ++ name
  | .service f => f.text
  | .time f => f.message
  | .mixedClocks => "can't compare offset-naive and offset-aware datetimes"

/-- The failure of a refused or broken configuration. -/
def Failure.ofConfig : ConfigFailure → Failure
  | .refused e => .config e
  | .broken d => .broken d

end DumpKeeper
