import DumpKeeper.Run
import DumpKeeper.Tick

/-!
# Scheduled backups

Backups run at the ticks of an interval until the program is asked to stop.  A timer is set up for
that with one job, started, and stopped in the end.  A cycle that fails is noted and does no harm to
those after it.

What a cycle does is a parameter here: nothing below depends on it.

* `setUp`, `start`, `stop` — the timer set up, started and stopped.
* `jobs`, `isRunning` — its jobs, and whether it runs.
* `runCycleSafely` — one cycle whose failure is noted.
* `Course`, `Stop` — what happens while the program waits, and how it is asked to stop.
* `run` — all of it: the delay before the first backup, then one backup or backups at every tick.
-/

set_option autoImplicit false

namespace DumpKeeper.Schedule

/-- The identity of the job that makes backups. -/
def jobId : String := "redis_backup"

/-- The failure of a tick that cannot be had. -/
def ofTickFault : TickFault → Failure
  | .idle interval => .config (idleInterval interval)
  | .time f => .time f

/-- The job that makes backups at the ticks of `interval`, for the first time at `first`.  There is
none if its whole seconds, which may be more than the interval itself, are no duration. -/
def backupJob? (interval : Duration) (first : DateTime) : Option Job :=
  (Duration.ofFields? 0 interval.wholeSeconds 0).map fun period =>
    { id := jobId
      name := "Redis backup every " ++ interval.compact
      interval := period
      first := first }

/-- The timer set up with its job, unless it is set up already: from now on it makes the backups of
`x` at the ticks of `interval`.  The timer is there before its job is made, and stays if that
fails. -/
def setUp (x : Executor) (interval : Duration) (now : Option Reading) : Act Unit := do
  let r ← get
  if r.timer.isSome then return
  match nextTick interval.wholeSeconds (now.getD r.world.now) with
  | .error f => fail (ofTickFault f)
  | .ok first =>
    modify fun r => { r with executor := some x }
    request .makeTimer
    modify fun r => { r with timer := some {} }
    match backupJob? interval first with
    | none => fail (.broken .outOfRange)
    | some job =>
      request (.addJob job.id job.name job.interval job.first)
      modify fun r => { r with timer := r.timer.map (·.add job) }

/-- What is said about the next time of the job `j`. -/
def sayNext (j : Job) : Act Unit :=
  say .info .scheduler
    ("Next backup at " ++ (match j.next with | some t => t.iso | none => "N/A"))

/-- The timer started, unless it runs already. -/
def start : Act Unit := do
  match (← get).timer with
  | none => fail (.lifecycle .noTimer)
  | some t =>
    if t.running then say .info .scheduler "Scheduler already running (state=1)"
    else
      request .startTimer
      modify fun r => { r with timer := some t.start }
      t.start.jobs.forM sayNext

/-- The timer stopped, if it runs, and forgotten.  A job that is being done is waited for. -/
def stop : Act Unit := do
  if ((← get).timer.any (·.running)) then
    request .stopTimer
    say .info .scheduler "Scheduler stopped"
  modify fun r => { r with timer := none, executor := none }

/-- The jobs of the timer in the run `r`. -/
def jobs (r : Run) : List Job := (r.timer.map (·.jobs)).getD []

/-- Whether the timer in the run `r` is at work. -/
def isRunning (r : Run) : Bool := r.timer.any (·.running)

/-- One `cycle`, of the executor `given` or of that of the timer.  Its failure is noted, and the
answer is whether there was none. -/
def runCycleSafely (cycle : Executor → Act (Option String)) (given : Option Executor) :
    Act Bool := do
  match given.or (← get).executor with
  | none => fail (.lifecycle .noRunner)
  | some x =>
    match ← attempt (cycle x) with
    | .error f =>
      say .error .scheduler ("Backup failed: " ++ f.message)
      return false
    | .ok (some key) =>
      if key.isEmpty then say .debug .scheduler "Backup cycle completed without upload"
      else say .debug .scheduler ("Backup cycle completed successfully: " ++ key)
      return true
    | .ok none =>
      say .debug .scheduler "Backup cycle completed without upload"
      return true

/-! ## Waiting -/

/-- How the program is asked to stop: directly, or by a signal of the system. -/
inductive Stop where
  | direct
  | signal (name : String)
  deriving DecidableEq, Repr, Inhabited

/-- What happens while the program waits.  `beforeDelay` and `duringDelay` tell whether it is asked
to stop before its delay begins, or in it; `meanwhile` is what else happens in the delay, and
`ticks` what happens before each tick; `ending` is how it is asked to stop in the end.
`longestWait` is the longest delay that the system can wait for, if it has one. -/
structure Course where
  beforeDelay : Option Stop := none
  duringDelay : Option Stop := none
  longestWait : Option Duration := none
  meanwhile : Act Unit := pure ()
  ticks : List (Act Unit) := []
  ending : Stop := .direct

/-- All that happens in the course `c` while the program waits, in the delay and before the
ticks. -/
def Course.acts (c : Course) : List (Act Unit) := c.meanwhile :: c.ticks

/-- The longest delay that a system with 64-bit times can wait for: as nanoseconds it is still a
signed number of 64 bits. -/
def longestWait64 : Duration := ⟨9223372036854775⟩

/-- Whether the system can wait for `delay`. -/
def Course.canWait (c : Course) (delay : Duration) : Bool :=
  c.longestWait.all fun longest => delay.micros ≤ longest.micros

/-- The signals that ask the program to stop. -/
def stopSignals : List String := ["SIGTERM", "SIGINT"]

/-- Whether a request to stop is heeded; signals are only if the program `listens` to them. -/
def heed (listens : Bool) : Stop → Act Bool
  | .direct => return true
  | .signal name => do
    if listens && stopSignals.contains name then
      say .info .commandLine ("Received " ++ name ++ ", shutting down")
      return true
    else return false

/-- The seconds of `d` as a floating-point number. -/
def secondsOf (d : Duration) : Float :=
  let x := Binary64.ofDecimal d.micros.natAbs (-6)
  if d.micros < 0 then -x else x

/-- Whether the program is asked to stop, and heeds it, by `heed`. -/
def heedAny (listens : Bool) : Option Stop → Act Bool
  | some s => heed listens s
  | none => return false

/-- The `delay` waited for; the answer is whether the program was asked to stop meanwhile.  If it
was asked before, there is no wait, and none that could be too long. -/
def waitDelay (listens : Bool) (c : Course) (delay : Duration) : Act Bool := do
  let asked ← heedAny listens c.beforeDelay
  request (.wait (some (secondsOf delay)))
  if asked then return true
  if !c.canWait delay then fail (.broken .outOfRange)
  c.meanwhile
  heedAny listens c.duringDelay

/-- The ticks of `c` waited for, each with a `cycle`, until the program is asked to stop. -/
def waitTicks (cycle : Executor → Act (Option String)) (listens : Bool) (c : Course) :
    Act Unit := do
  request (.wait none)
  c.ticks.forM fun before => do
    before
    let result ← runCycleSafely cycle none
    changeWorld fun w => w.record (.tick result)
  let _ ← heed listens c.ending

/-- The act `t`, after which `last` is done, whether `t` fails or not. -/
def thenAlways {α : Type} (t : Act α) (last : Act Unit) : Act α := do
  let result ← attempt t
  last
  match result with
  | .ok a => return a
  | .error f => fail f

/-- Backups until the program is asked to stop, or just one.  The answer is `false` if it was just
one and it failed. -/
def run (cycle : Executor → Act (Option String)) (listens : Bool) (c : Course) (x : Executor)
    (interval delay : Duration) (once : Bool) : Act Bool := do
  if interval.wholeSeconds ≤ 0 then fail (.config (.idleInterval interval.clock))
  if 0 < delay.micros then
    say .info .scheduler
      ("Initially waiting for " ++ delay.compact ++ " to allow for Redis to setup replication")
    if ← waitDelay listens c delay then
      say .info .scheduler "Stopped during initial delay"
      return true
  if once then runCycleSafely cycle (some x)
  else
    setUp x interval none
    start
    thenAlways (waitTicks cycle listens c) stop
    return true

end DumpKeeper.Schedule
