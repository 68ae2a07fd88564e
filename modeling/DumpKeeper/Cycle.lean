import DumpKeeper.ObjectKey
import DumpKeeper.Replication
import DumpKeeper.Retention.Cleanup

/-!
# Backup cycles

A cycle makes one backup: the role of the node is looked at, then the dump is read and stored under
a key that tells when it was changed, and then old backups are deleted.  A node whose role is not
selected and a dump that is not there yet end the cycle early, which is no failure.

* `FileTime.wholeSeconds` — the second in which a file was changed.
* `megabytes` — a size as messages show it.
* `uploadDump` — the dump read and stored.
* `runCycle` — a cycle; the answer is the key of the backup, if one was made.
-/

set_option autoImplicit false

namespace DumpKeeper

/-- The time of a file as a floating-point number of seconds. -/
def FileTime.toFloat (t : FileTime) : Float :=
  Float.ofInt t.seconds + 1e-9 * Float.ofNat t.nanos

/-- The second in which a file was changed, by the floating-point number of its time. -/
def FileTime.wholeSeconds (t : FileTime) : Int :=
  (Binary64.truncate? t.toFloat).getD 0

/-- A size in units of 2 ^ 20 bytes, to two places. -/
def megabytes (size : Nat) : String :=
  let n := Binary64.roundDiv (100 * size) (Nat.pow 2 20)
  toString (n / 100) ++ "." ++ Duration.padded 2 (n % 100)

/-- A reading of the clock as the value of a gauge. -/
def setLastBackup (now : Reading) : Act Unit :=
  modify fun r =>
    { r with metrics := r.metrics.setGauge (now.toFloat?.getD r.metrics.lastBackup) }

/-- How long a cycle took. -/
def elapsedTime : Act Amount := do
  return .fraction ((← get).world.elapsed.toFloat?.getD 0)

/-- A cycle that failed is timed and counted. -/
def recordFailure : Act Unit := do
  observe .durations (← elapsedTime)
  count .failed

/-- The content of the dump and the time at which it was changed. -/
def readDump (path : FilePath) : Act (ByteArray × FileTime) := do
  let files := (← get).world.files
  let shown := path.toString
  let unreadable {α : Type} (f : FileFault) : Act α := do
    say .error .cycle (DumpError.unreadable shown f).message
    fail (.dump (.unreadable shown f))
  match files.stat path with
  | .error f => unreadable f
  | .ok found =>
    say .debug .cycle ("Reading dump file: " ++ shown)
    match files.read path with
    | .ok content => return (content, found.changed)
    | .error f => unreadable f

/-- The key of a dump. -/
def keyOf (c : Config) (changed : FileTime) : Act String := do
  match DateTime.ofUnixSeconds changed.wholeSeconds with
  | .error f => fail (.time f)
  | .ok t =>
    match backupKey? c.storage.cleanFolder c.redis.nodeName t with
    | some key => return key
    | none => fail (.time .beyondDates)

/-- The dump read and stored; the answer is its key. -/
def uploadDump (x : Executor) : Act String := do
  let path := x.config.dumpPath
  let (content, changed) ← readDump path
  let key ← keyOf x.config changed
  say .debug .cycle ("Uploading backup to: " ++ key)
  match ← attempt (x.store.upload key content) with
  | .ok () => pure ()
  | .error (.storage e) =>
    count .uploads
    say .error .cycle
      ("Failed to upload " ++ path.toString ++ " to " ++ x.store.kind.name ++ "://" ++
        x.store.bucket ++ "/" ++ key ++ ": " ++ e.message)
    fail (.storage e)
  | .error f => fail f
  count .uploads
  observe .sizes (.whole content.size)
  setLastBackup (← get).world.now
  say .info .cycle
    ("Backup uploaded successfully: " ++ key ++ " (" ++ megabytes content.size ++ " MB)")
  return key

/-- Old backups deleted.  If they cannot be listed, the backup that was made stands. -/
def enforceRetention (x : Executor) : Act Unit := do
  let beginning := nodeFolder x.config.storage.cleanFolder x.config.redis.nodeName
  match ← attempt (cleanup x.store x.config.retention beginning) with
  | .ok _ => pure ()
  | .error (.storage e) => say .error .cycle ("Backup retention failed: " ++ e.message)
  | .error f => fail f

/-- A step of a cycle; the failures that are counted make the cycle a failed one. -/
def counted {α : Type} (counts : Failure → Bool) (t : Act α) : Act α := do
  match ← attempt t with
  | .ok a => pure a
  | .error f =>
    if counts f then recordFailure
    fail f

/-- Whether a failure comes from asking for the role. -/
def Failure.isRole : Failure → Bool
  | .role _ => true
  | _ => false

/-- Whether a failure comes from reading or storing the dump. -/
def Failure.isUpload : Failure → Bool
  | .dump _ => true
  | .storage _ => true
  | _ => false

/-- Whether the dump is there. -/
def dumpIsThere (path : FilePath) : Act Bool := do
  match (← get).world.files.isThere path with
  | .ok b => return b
  | .error f =>
    let e : DumpError := .inaccessible path.toString f
    say .error .cycle e.message
    recordFailure
    fail (.dump e)

/-- One cycle; the answer is the key of the backup, if one was made. -/
def runCycle (x : Executor) : Act (Option String) := do
  count .attempted
  let selected ← counted Failure.isRole (Replication.shouldBackup x.config.redis)
  if !selected then
    say .info .cycle "Skipping backup based on Redis role configuration"
    return none
  let path := x.config.dumpPath
  if !(← dumpIsThere path) then
    say .warning .cycle ("Dump file does not exist: " ++ path.toString)
    return none
  let key ← counted Failure.isUpload (uploadDump x)
  observe .durations (← elapsedTime)
  count .successful
  enforceRetention x
  return some key

end DumpKeeper
