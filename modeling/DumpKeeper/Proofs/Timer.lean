import DumpKeeper.Proofs.Act
import DumpKeeper.Schedule

/-!
# What the timer is asked

The timer is made, given its job, started and stopped by calls, which are supposed not to fail here.
What is done with the timer can then be told in full, one case after the other.

* `Call.isTimers`, `World.timerCalls` — the calls of the timer, and those that were made.
  `Call.isSchedules` — the calls of the scheduler, of which they are a part.
* `World.SparesTimer` — no fault is planned for a call of the timer, and `Act.on_request_timer`.
* `Run.Noted` — between two runs there are only entries of the journal.
* `Schedule.passDelay`, `Schedule.afterDelay`, `Schedule.run_eq` — the stages of a run.
* `Schedule.setUp_on_job` and its companions — what setting up the timer does: nothing if there is
  one, nothing if there is no next tick, one job otherwise.
* `Schedule.start_on_idle`, `Schedule.stop_on` and their companions — the same for starting and
  stopping it.
* `Schedule.runCycleSafely_on` — there always is a report of a cycle.
-/

set_option autoImplicit false

namespace DumpKeeper

/-! ## Calls of the timer -/

/-- The calls of the timer. -/
def Call.isTimers : Call → Bool
  | .makeTimer | .addJob .. | .startTimer | .stopTimer => true
  | _ => false

/-- The calls of the scheduler: those of the timer, what it waits for, and what ticks have come
to. -/
def Call.isSchedules : Call → Bool
  | .makeTimer | .addJob .. | .startTimer | .stopTimer | .wait _ | .tick _ => true
  | _ => false

namespace World

variable {w : World} {c : Call}

/-- The calls of the timer that were made in the world `w`. -/
def timerCalls (w : World) : List Call := w.calls.filter Call.isTimers

/-- No fault is planned in the world `w` for a call of the timer. -/
def SparesTimer (w : World) : Prop := ∀ c : Call, c.isTimers = true → ∀ e ∈ w.faults, e.1 ≠ c.name

@[simp] theorem timerCalls_record (h : c.isTimers = true) :
    (w.record c).timerCalls = w.timerCalls ++ [c] := by
  rw [timerCalls, timerCalls, record, List.filter_append, List.filter_cons_of_pos h,
    List.filter_nil]

theorem SparesTimer.record (h : w.SparesTimer) (c : Call) : (w.record c).SparesTimer := h

/-- Where nothing is planned for `name`, nothing is `due` for it. -/
theorem due_of_forall_ne {name : String} {faults : List (String × Option ServiceFault)}
    (h : ∀ e ∈ faults, e.1 ≠ name) : due name faults = (none, faults) := by
  induction faults with
  | nil => rfl
  | cons e rest ih =>
    obtain ⟨he, hrest⟩ := List.forall_mem_cons.1 h
    rw [due, ih hrest, if_neg (by simpa using he)]

/-- A call `c` that nothing is planned for is noted down, and that is all. -/
theorem ask_of_forall_ne (h : ∀ e ∈ w.faults, e.1 ≠ c.name) : w.ask c = (.ok (), w.record c) := by
  have hdue : due c.name (w.record c).faults = (none, w.faults) := due_of_forall_ne h
  rw [World.ask, meet, hdue]
  rfl

end World

theorem Act.on_request_of_forall_ne {r : Run} {c : Call}
    (h : ∀ e ∈ r.world.faults, e.1 ≠ c.name) :
    (request c).on r = (.ok (), { r with world := r.world.record c }) := by
  rw [on_request, World.ask_of_forall_ne h]
  rfl

theorem Act.on_request_timer {r : Run} {c : Call} (h : r.world.SparesTimer)
    (hc : c.isTimers = true) :
    (request c).on r = (.ok (), { r with world := r.world.record c }) :=
  on_request_of_forall_ne (h c hc)

/-! ## Entries of the journal -/

/-- Between `r` and `s` there are only entries of the journal. -/
def Run.Noted (r s : Run) : Prop := s = { r with journal := s.journal }

namespace Run.Noted

variable {r s t : Run}

theorem refl (r : Run) : r.Noted r := rfl

theorem trans (h : r.Noted s) (h' : s.Noted t) : r.Noted t := by
  rw [Noted] at h' ⊢
  rw [h', h]

theorem timer (h : r.Noted s) : s.timer = r.timer := by rw [h]

theorem executor (h : r.Noted s) : s.executor = r.executor := by rw [h]

theorem world (h : r.Noted s) : s.world = r.world := by rw [h]

theorem metrics (h : r.Noted s) : s.metrics = r.metrics := by rw [h]

end Run.Noted

theorem Act.say_noted (level : Level) (source : Source) (message : String) (r : Run) :
    ∃ s, (say level source message).on r = (.ok (), s) ∧ r.Noted s := by
  refine ⟨_, rfl, ?_⟩
  dsimp only
  split <;> rfl

namespace Schedule

open Act

variable {r : Run} {x : Executor} {interval : Duration} {given : Option Reading} {first : DateTime}

/-! ## The stages of a run -/

/-- The `delay` before the first backup; the answer is whether the program was asked to stop in
it. -/
def passDelay (listens : Bool) (c : Course) (delay : Duration) : Act Bool := do
  if 0 < delay.micros then
    say .info .scheduler
      ("Initially waiting for " ++ delay.compact ++ " to allow for Redis to setup replication")
    if ← waitDelay listens c delay then
      say .info .scheduler "Stopped during initial delay"
      return true
  return false

/-- What `run` does behind the delay: one cycle, or backups at every tick. -/
def afterDelay (cycle : Executor → Act (Option String)) (listens : Bool) (c : Course)
    (x : Executor) (interval : Duration) (once : Bool) : Act Bool := do
  if once then runCycleSafely cycle (some x)
  else
    setUp x interval none
    start
    thenAlways (waitTicks cycle listens c) stop
    return true

/-- **`run` is the delay, and what comes behind it**: `passDelay` and then `afterDelay`, unless that
was cut short. -/
theorem run_eq (cycle : Executor → Act (Option String)) (listens : Bool) (c : Course)
    (x : Executor) (delay : Duration) (once : Bool) (h : 0 < interval.wholeSeconds) :
    run cycle listens c x interval delay once = (do
      let cut ← passDelay listens c delay
      if cut then return true
      afterDelay cycle listens c x interval once) := by
  rw [run, if_neg (by omega), passDelay]
  by_cases hd : 0 < delay.micros
  · simp only [if_pos hd, bind_assoc]
    refine bind_congr fun _ => bind_congr fun cut => ?_
    cases cut
    · rfl
    · simp only [if_true, bind_assoc, pure_bind]
  · simp only [if_neg hd, pure_bind]
    rfl

/-- There is no `run` at all without whole seconds. -/
theorem run_eq_fail (cycle : Executor → Act (Option String)) (listens : Bool) (c : Course)
    (x : Executor) (delay : Duration) (once : Bool) (h : interval.wholeSeconds ≤ 0) :
    run cycle listens c x interval delay once = fail (.config (.idleInterval interval.clock)) := by
  rw [run, if_pos h]
  rfl

theorem run_on_cut {cycle : Executor → Act (Option String)} {listens : Bool} {c : Course}
    {delay : Duration} {once : Bool} {t : Run} (h : 0 < interval.wholeSeconds)
    (ht : (passDelay listens c delay).on r = (.ok true, t)) :
    (run cycle listens c x interval delay once).on r = (.ok true, t) := by
  rw [run_eq cycle listens c x delay once h]
  exact on_bind_ok ht

theorem run_on_error {cycle : Executor → Act (Option String)} {listens : Bool} {c : Course}
    {delay : Duration} {once : Bool} {f : Failure} {t : Run} (h : 0 < interval.wholeSeconds)
    (ht : (passDelay listens c delay).on r = (.error f, t)) :
    (run cycle listens c x interval delay once).on r = (.error f, t) := by
  rw [run_eq cycle listens c x delay once h]
  exact on_bind_error ht

theorem run_on_whole {cycle : Executor → Act (Option String)} {listens : Bool} {c : Course}
    {delay : Duration} {once : Bool} {t : Run} (h : 0 < interval.wholeSeconds)
    (ht : (passDelay listens c delay).on r = (.ok false, t)) :
    (run cycle listens c x interval delay once).on r =
      (afterDelay cycle listens c x interval once).on t := by
  rw [run_eq cycle listens c x delay once h]
  exact on_bind_ok ht

/-! ## Setting up -/

/-- The reading of the clock that counts for a set-up: the one that is `given`, or else that of the
world. -/
abbrev clock (r : Run) (given : Option Reading) : Reading := given.getD r.world.now

/-- The call that gives the job `j` to the timer. -/
def jobCall (j : Job) : Call := .addJob j.id j.name j.interval j.first

/-- **A timer that is set up stays as it is**, whatever else `setUp` is asked for. -/
theorem setUp_on_set (h : r.timer.isSome = true) : (setUp x interval given).on r = (.ok (), r) := by
  rw [setUp, on_get_bind, if_pos h]
  rfl

/-- What comes in `setUp` behind the test of whether there is a timer. -/
theorem setUp_on_none (h : r.timer = none) :
    (setUp x interval given).on r =
      Act.on (match nextTick interval.wholeSeconds (clock r given) with
      | .error f => fail (ofTickFault f)
      | .ok first => do
        modify fun r => { r with executor := some x }
        request .makeTimer
        modify fun r => { r with timer := some {} }
        match backupJob? interval first with
        | none => fail (.broken .outOfRange)
        | some job =>
          request (.addJob job.id job.name job.interval job.first)
          modify fun r => { r with timer := r.timer.map (·.add job) }) r := by
  rw [setUp, on_get_bind, h]
  exact congrArg (fun t => Act.on t r) (if_neg (by simp))

/-- Where there is no `nextTick`, nothing is done. -/
theorem setUp_on_error (h : r.timer = none) {f : TickFault}
    (hf : nextTick interval.wholeSeconds (clock r given) = .error f) :
    (setUp x interval given).on r = (.error (ofTickFault f), r) := by
  rw [setUp_on_none h, hf]
  rfl

/-- The timer is there when its job is made. -/
theorem setUp_on_ok (h : r.timer = none) (hs : r.world.SparesTimer)
    (hfirst : nextTick interval.wholeSeconds (clock r given) = .ok first) :
    (setUp x interval given).on r = Act.on (match backupJob? interval first with
        | none => fail (.broken .outOfRange)
        | some job => do
          request (.addJob job.id job.name job.interval job.first)
          modify fun r => { r with timer := r.timer.map (·.add job) })
      { r with executor := some x, timer := some {}, world := r.world.record .makeTimer } := by
  have hmake := on_request_timer (r := { r with executor := some x }) (c := .makeTimer) hs rfl
  rw [setUp_on_none h, hfirst]
  dsimp only
  rw [on_bind_ok (on_modify _ _), on_bind_ok hmake, on_bind_ok (on_modify _ _)]

/-- **A timer without a job** is left behind by `setUp` if the whole seconds of `interval` are no
duration. -/
theorem setUp_on_half (h : r.timer = none) (hs : r.world.SparesTimer)
    (hfirst : nextTick interval.wholeSeconds (clock r given) = .ok first)
    (hjob : backupJob? interval first = none) :
    (setUp x interval given).on r = (.error (.broken .outOfRange),
      { r with executor := some x, timer := some {}, world := r.world.record .makeTimer }) := by
  rw [setUp_on_ok h hs hfirst, hjob]
  rfl

/-- **A timer with its job `j`** is made by `setUp` otherwise. -/
theorem setUp_on_job (h : r.timer = none) (hs : r.world.SparesTimer) {j : Job}
    (hfirst : nextTick interval.wholeSeconds (clock r given) = .ok first)
    (hjob : backupJob? interval first = some j) :
    (setUp x interval given).on r = (.ok (),
      { r with executor := some x, timer := some ⟨[j], false⟩,
               world := (r.world.record .makeTimer).record (jobCall j) }) := by
  have hadd := on_request_timer
    (r := { r with executor := some x, timer := some {}, world := r.world.record .makeTimer })
    (c := jobCall j) (hs.record _) rfl
  rw [setUp_on_ok h hs hfirst, hjob]
  exact (on_bind_ok hadd).trans (on_modify _ _)

/-! ## Starting -/

theorem start_on_none (h : r.timer = none) : start.on r = (.error (.lifecycle .noTimer), r) := by
  rw [start, on_get_bind, h]
  rfl

/-- A timer `t` that runs is not started again. -/
theorem start_on_running {t : Timer} (h : r.timer = some t) (hrun : t.running = true) :
    ∃ s, start.on r = (.ok (), s) ∧ r.Noted s := by
  rw [start, on_get_bind, h]
  dsimp only
  rw [if_pos hrun]
  exact say_noted _ _ _ r

theorem forM_sayNext_noted (js : List Job) (r : Run) :
    ∃ s, (js.forM sayNext).on r = (.ok (), s) ∧ r.Noted s := by
  induction js generalizing r with
  | nil => exact ⟨r, rfl, .refl r⟩
  | cons j js ih =>
    obtain ⟨s, hs, hrs⟩ : ∃ s, (sayNext j).on r = (.ok (), s) ∧ r.Noted s := say_noted _ _ _ r
    obtain ⟨u, hu, hsu⟩ := ih s
    exact ⟨u, (on_bind_ok hs).trans hu, hrs.trans hsu⟩

/-- **A timer `t` that does not run is started** by `start`. -/
theorem start_on_idle {t : Timer} (h : r.timer = some t) (hs : r.world.SparesTimer)
    (hrun : t.running = false) :
    ∃ s, start.on r = (.ok (), s) ∧
      Run.Noted { r with timer := some t.start, world := r.world.record .startTimer } s := by
  rw [start, on_get_bind, h]
  dsimp only
  rw [if_neg (by simp [hrun]), on_bind_ok (on_request_timer hs rfl), on_bind_ok (on_modify _ _)]
  exact forM_sayNext_noted _ _

/-! ## Stopping -/

/-- A timer that does not run is forgotten by `stop`. -/
theorem stop_on_idle (h : isRunning r = false) :
    stop.on r = (.ok (), { r with timer := none, executor := none }) := by
  rw [stop, on_get_bind, if_neg (by rwa [Bool.not_eq_true])]
  rfl

/-- **A timer that runs is stopped** by `stop`, and then forgotten. -/
theorem stop_on_running (hs : r.world.SparesTimer) (h : isRunning r = true) :
    ∃ s, stop.on r = (.ok (), { s with timer := none, executor := none }) ∧
      Run.Noted { r with world := r.world.record .stopTimer } s := by
  obtain ⟨s, hsay, hs'⟩ := say_noted .info .scheduler "Scheduler stopped"
    { r with world := r.world.record .stopTimer }
  refine ⟨s, ?_, hs'⟩
  have hrun : r.timer.any (·.running) = true := h
  rw [stop, on_get_bind, if_pos hrun]
  exact (on_bind_ok (on_request_timer hs rfl)).trans ((on_bind_ok hsay).trans (on_modify _ _))

/-! ## Reporting -/

/-- **`runCycleSafely` always reports**: the report is a good one just when the `cycle` has an
answer, and nothing else is done about it. -/
theorem runCycleSafely_on (cycle : Executor → Act (Option String)) {given : Option Executor}
    (hx : given.or r.executor = some x) :
    ∃ s, (runCycleSafely cycle given).on r = (.ok ((cycle x).on r).1.isOk, s) ∧
      ((cycle x).on r).2.Noted s := by
  have hsay : ∀ (level : Level) (message : String) (good : Bool) (t : Run),
      ∃ s, Act.on (do say level .scheduler message; return good) t = (.ok good, s) ∧
        t.Noted s := by
    intro level message good t
    obtain ⟨s, hs, hts⟩ := say_noted level .scheduler message t
    exact ⟨s, on_bind_ok hs, hts⟩
  rw [runCycleSafely, on_get_bind, hx]
  dsimp only
  rw [on_bind, on_attempt]
  rcases (cycle x).on r with ⟨f | _ | key, t⟩
  · exact hsay _ _ false t
  · exact hsay _ _ true t
  · dsimp only
    split
    · exact hsay _ _ true t
    · exact hsay _ _ true t

end Schedule

end DumpKeeper
