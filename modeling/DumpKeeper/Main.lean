import DumpKeeper.CommandLine

/-!
# The program

The command line run on the files of the system.  The object store and the Redis node of such a run
belong to its own world, which begins with an empty bucket and lasts as long as the run; there is
nothing to wait for in it, so a run ends when it would wait.

* `readFiles`, `readClock`, `readEnvironment` — what a run starts from.
* `execute` — a run of the program.
-/

set_option autoImplicit false

namespace DumpKeeper

/-- The variables of the environment that are set. -/
def readEnvironment : IO Environment :=
  variableNames.filterMapM fun name => do
    return (← IO.getEnv name).map fun value => (name, value)

/-- The time at which a file was changed, by what the system tells of it. -/
def changedAt (m : IO.FS.Metadata) : FileTime :=
  ⟨m.modified.sec, m.modified.nsec.toNat⟩

/-- The tree `t` with one more file of the system, if there is one at `name`.  One that cannot be
read is refused. -/
def withFile (t : FileTree) (name : String) : IO FileTree := do
  try
    let path := FilePath.ofString name
    let place := (← IO.currentDir) / name
    let time := changedAt (← place.metadata)
    match ← (IO.FS.readBinFile place).toBaseIO with
    | .ok content => return t.write path content time
    | .error _ => return (t.write path .empty time).refuse .read path (some .denied)
  catch _ => return t

/-- The time of the clock, which is that of a file made just now. -/
def readClock : IO Reading :=
  IO.FS.withTempFile fun _ place => do
    return .whole (changedAt (← place.metadata)).seconds

/-- The working folder, still without files. -/
def emptyTree : IO FileTree := do
  let cwd := (← IO.currentDir).toString
  return { cwd := (FilePath.ofString cwd).parts, cwdName := cwd }

/-- The files that a run looks at: that of the settings, which `args` name, and the dump that these
name. -/
def readFiles (args : List String) (env : Environment) : IO FileTree := do
  let t ← emptyTree
  match CommandLine.Arguments.parse args with
  | .error _ => return t
  | .ok a =>
    let t ← withFile t a.path
    match ((Config.load t (some a.path) env).run.run []).1 with
    | .ok c => withFile t c.dumpPath.toString
    | .error _ => return t

/-- The entry `e` of the journal as a line. -/
def Entry.line (e : Entry) : String :=
  e.level.name ++ " in " ++ e.source.name ++ ": " ++ e.message

/-- The command line `args` run on the files of the system; the answer is the code that it ends
with. -/
def execute (args : List String) : IO UInt32 := do
  let env ← readEnvironment
  let world : World := { now := ← readClock, files := ← readFiles args env }
  let course : Schedule.Course := { longestWait := some Schedule.longestWait64 }
  let (ending, r) := (CommandLine.run args env course).run.run { world := world }
  r.journal.forM fun e => IO.eprintln e.line
  match ending with
  | .ok e =>
    IO.print e.output
    IO.eprint e.complaint
    return e.code.toUInt32
  | .error f =>
    IO.eprintln f.message
    return 1

end DumpKeeper

/-- The program. -/
def main (args : List String) : IO UInt32 := DumpKeeper.execute args
