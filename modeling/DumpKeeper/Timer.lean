import DumpKeeper.Config.Settings

/-!
# Timers

A timer runs jobs at regular times.  It is made first, then given its jobs, then started, and
stopped in the end; a job knows its next time only once the timer is running.

* `Job`, `Timer` — the types.
* `Timer.start` — every job gets the first of its times.
* `Job.trigger` — when a job runs, as a text.
-/

set_option autoImplicit false

namespace DumpKeeper

/-- A job: what it is called, how often it runs and when for the first time, and its next time. -/
structure Job where
  id : String
  name : String
  interval : Duration
  first : DateTime
  next : Option DateTime := none
  deriving DecidableEq, Repr, Inhabited

/-- When the job `j` runs. -/
def Job.trigger (j : Job) : String := "interval[" ++ j.interval.clock ++ "]"

/-- A timer with its jobs. -/
structure Timer where
  jobs : List Job := []
  running : Bool := false
  deriving DecidableEq, Repr, Inhabited

/-- The timer `t` with the job `j` more, in the place of a job of the same identity. -/
def Timer.add (t : Timer) (j : Job) : Timer :=
  { t with jobs := t.jobs.filter (·.id != j.id) ++ [j] }

/-- The timer `t` at work; its jobs know their next times. -/
def Timer.start (t : Timer) : Timer :=
  ⟨t.jobs.map fun j => { j with next := some j.first }, true⟩

end DumpKeeper
