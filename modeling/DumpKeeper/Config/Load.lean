import DumpKeeper.Config.Environment
import DumpKeeper.Yaml.Load

/-!
# Loading a configuration

A configuration comes from a file, if there is one, and from the variables of the environment.

* `Config.fromFile` — the mapping of a file.
* `Config.load` — the configuration of a file and the environment.
-/

set_option autoImplicit false

namespace DumpKeeper

/-- The mapping of the file at `path`; a file that is empty in any way has no entries. -/
def Config.fromFile (files : FileTree) (path : FilePath) : Except ConfigFailure Entries :=
  let shown := path.toString
  match files.read path with
  | .error f => .error (.refused (.unreadable shown (.system f shown)))
  | .ok content =>
    match Yaml.load (Text.Legible.ofBytes content.data.toList) with
    | .error .malformed => .error (.refused (.unreadable shown .format))
    | .error f => .error (.broken (.badValue f))
    | .ok v =>
      if !v.truthy then .ok []
      else
        match v with
        | .map es => .ok es
        | _ => .error (.refused (.notAMapping shown))

/-- What is said when every backup would be deleted. -/
def deletesEverythingWarning : String :=
  "Retention keeps neither a backup count nor a duration: " ++
    "every stored backup for this node will be deleted after each successful upload"

/-- The configuration of the file at `path` and the variables in `env`.  An empty path stands for no
file, and a file that is not there is noted and does no harm. -/
def Config.load (files : FileTree) (path : Option String) (env : Environment) :
    Journaled ConfigFailure Config := do
  let path := (path.filter fun s => !s.isEmpty).map FilePath.ofString
  let shown := match path with
    | some p => p.toString
    | none => Value.null.quoted
  let present ← match path with
    | some p =>
      match files.isThere p with
      | .ok b => pure (if b then some p else none)
      | .error _ => throw (.broken .unreachable)
    | none => pure none
  let raw ← match present with
    | some p => do
      note .info .config ("Loading configuration from file: " ++ shown)
      liftM (Config.fromFile files p)
    | none => do
      note .warning .config ("No config file found at " ++ shown ++ ", using defaults")
      pure []
  let config ← Config.build raw
  let config ← liftM (config.override env)
  if config.retention.deletesEverything then
    note .warning .config deletesEverythingWarning
  return config

end DumpKeeper
