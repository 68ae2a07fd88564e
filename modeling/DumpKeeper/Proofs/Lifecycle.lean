import DumpKeeper.Proofs.Apart
import DumpKeeper.Proofs.Outcome
import DumpKeeper.Proofs.Timetable

/-!
# The life of the timer

The timer is set up, started and stopped, and cycles are made, in any order and as often as anybody
asks for it.  All that there is to know about the timer can then be told from what was asked: it
serves the first order since it was last stopped, it runs if it was started since then, and what is
refused does no harm.  That is so as long as timers are set up with whole seconds.

* `Move`, `Event`, `History` — what can be asked, what was asked, and all that was asked so far.
* `firstOrder?` — the order that counts: the first one since the last stop.
* `Sound` — how the timer should agree with what was asked.
* `Event.Effect` — what an event may do, whatever it is.
* `Tracks` — how the timer agrees with what was asked, kept by every such event (`Tracks.next`).
* `History.sound_iff` — the timer agrees with what was asked just when it was always set up with
  whole seconds.
-/

set_option autoImplicit false

namespace DumpKeeper

/-! ## Intervals without a next tick -/

/-- A duration of less than a second has no `wholeSeconds`. -/
theorem Duration.wholeSeconds_nonpos {d : Duration} (h : d.micros < microsPerSecond) :
    d.wholeSeconds ≤ 0 := by
  rw [wholeSeconds]
  split
  · omega
  · have hq : d.micros.natAbs / microsPerSecond = 0 := Nat.div_eq_of_lt (by omega)
    simp [wholePart, hq]

theorem nextTick_of_nonpos {seconds : ℤ} (h : seconds ≤ 0) (now : Reading) :
    nextTick seconds now = .error (.idle seconds) := by
  rw [nextTick, secondsUntilTick, if_pos h]
  rfl

/-- **Which intervals have no `nextTick`**: those of less than a second, and those whose next tick
no date can be given to. -/
theorem exists_nextTick_eq_error_iff {interval : Duration} {now : Reading} :
    (∃ f, nextTick interval.wholeSeconds now = .error f) ↔
      interval.micros < microsPerSecond ∨
        ∃ f, nextTick interval.wholeSeconds now = .error (.time f) := by
  constructor
  · rintro ⟨f, hf⟩
    refine or_iff_not_imp_left.2 fun hlong => ?_
    have hpos := Duration.wholeSeconds_pos (not_lt.1 hlong)
    rcases f with n | f
    · exact absurd ⟨_, rfl⟩ (Schedule.not_isConfig_of_nextTick hpos hf)
    · exact ⟨f, hf⟩
  · rintro (hshort | ⟨f, hf⟩)
    · exact ⟨_, nextTick_of_nonpos (Duration.wholeSeconds_nonpos hshort) now⟩
    · exact ⟨_, hf⟩

namespace Schedule

/-! ## Moves -/

/-- What can be asked of the scheduler. -/
inductive Move where
  | setUp (x : Executor) (interval : Duration) (given : Option Reading)
  | start
  | stop
  | cycle (given : Option Executor)

namespace Move

/-- What is done for a move. -/
def act : Move → Act Unit
  | setUp x interval given => Schedule.setUp x interval given
  | start => Schedule.start
  | stop => Schedule.stop
  | cycle given => do
    let _ ← runCycleSafely runCycle given
    return

/-- The interval of the move, if it has one, is a duration. -/
def InRange : Move → Prop
  | setUp _ interval _ => Duration.ofMicros? interval.micros = some interval
  | _ => True

/-- What is to be refused in the run `r`: to set up a timer, if there is none, with less than a
second or without a next tick; to start no timer; and to make a cycle without an executor. -/
def IsRefused (r : Run) : Move → Prop
  | setUp _ interval given =>
    r.timer = none ∧ (interval.micros < microsPerSecond ∨
      ∃ f, nextTick interval.wholeSeconds (clock r given) = .error (.time f))
  | start => r.timer = none
  | stop => False
  | cycle given => given = none ∧ r.executor = none

end Move

/-! ## Events -/

/-- A move that was made, and the run `before` it. -/
structure Event where
  move : Move
  before : Run

/-- What a timer is set up with: for whom it makes backups, how often, and what the clock says. -/
structure Order where
  executor : Executor
  interval : Duration
  now : Reading

namespace Event

/-- The answer to the move of the event `e`. -/
def answer (e : Event) : Except Failure Unit := (e.move.act.on e.before).1

/-- The run after the event `e`. -/
def after (e : Event) : Run := (e.move.act.on e.before).2

/-- Whether the move of `e` went without a failure. -/
def isDone (e : Event) : Bool := e.answer.isOk

/-- What the timer was to be set up with by `e`, if that was done. -/
def order? (e : Event) : Option Order :=
  match e.move with
  | .setUp x interval given => if e.isDone then some ⟨x, interval, clock e.before given⟩ else none
  | _ => none

/-- Whether the timer was to be started by `e`, and that was done. -/
def hasStarted (e : Event) : Bool :=
  match e.move with
  | .start => e.isDone
  | _ => false

/-- Whether the timer was to be stopped by `e`. -/
def isStop (e : Event) : Bool :=
  match e.move with
  | .stop => true
  | _ => false

/-- The event `e` sets up a timer: there is none yet, and there is a next tick of `interval`. -/
def Makes (e : Event) (interval : Duration) : Prop :=
  e.before.timer = none ∧ ∃ x given first, e.move = .setUp x interval given ∧
    nextTick interval.wholeSeconds (clock e.before given) = .ok first

end Event

/-- **What was asked of the scheduler**, the last event first, and the run after it.  There is no
timer in the beginning.  Between two events anything may happen that does nothing to the timer. -/
inductive History : List Event → Run → Prop
  | nil {r : Run} (timer : r.timer = none) (executor : r.executor = none)
    (calls : r.world.timerCalls = []) : History [] r
  | cons {es : List Event} {r : Run} {e : Event} (earlier : History es r)
    (between : r.Besides e.before) (spared : e.before.world.SparesTimer)
    (range : e.move.InRange) : History (e :: es) e.after

/-! ## What should become of the timer -/

/-- The events of `es` since the last stop. -/
def sinceStop (es : List Event) : List Event := es.takeWhile fun e => !e.isStop

/-- The first order in `es` since the last stop. -/
def firstOrder? (es : List Event) : Option Order :=
  ((sinceStop es).filterMap Event.order?).getLast?

/-- The job `j` carries out the order `o`. -/
structure Serves (j : Job) (o : Order) : Prop where
  /-- It is the job that makes backups. -/
  id : j.id = jobId
  /-- It makes them as often as ordered. -/
  interval : j.interval = o.interval
  /-- It begins with the next tick. -/
  first : nextTick o.interval.wholeSeconds o.now = .ok j.first

/-- The calls by which a timer gets the job `j`, and is started if it is. -/
def lifeCalls (started : Bool) (j : Job) : List Call :=
  .makeTimer :: jobCall j :: if started then [.startTimer] else []

/-- All the calls of a timer that is gone, with its job and whether it was started: if so, it was
stopped. -/
def pastCalls (life : Job × Bool) : List Call :=
  lifeCalls life.2 life.1 ++ if life.2 then [.stopTimer] else []

/-- The calls of the timer that there is in the run `r`. -/
def presentCalls (r : Run) : List Call := (jobs r).flatMap (lifeCalls (isRunning r))

/-- How the move of `e` should go. -/
structure Event.IsFair (e : Event) : Prop where
  /-- It fails just when it is to be refused. -/
  refused : e.isDone = false ↔ e.move.IsRefused e.before
  /-- A move that fails changes nothing at all. -/
  harmless : e.isDone = false → e.after = e.before
  /-- A stop ends a timer that runs with one call, which waits for the job that is being done, and
  it leaves no timer behind. -/
  stopped : e.isStop = true → e.after.timer = none ∧
    e.after.world.timerCalls =
      e.before.world.timerCalls ++ if isRunning e.before then [.stopTimer] else []

/-- **How the timer in the run `r` should agree with what was asked** in `es`. -/
structure Sound (es : List Event) (r : Run) : Prop where
  /-- There is an executor just when there is a timer. -/
  paired : r.timer = none ↔ r.executor = none
  /-- There are jobs just when there is a timer. -/
  jobless : jobs r = [] ↔ r.timer = none
  /-- There is a timer just when one was ordered since the last stop. -/
  ordered : r.timer = none ↔ firstOrder? es = none
  /-- The first order since then is carried out by the one job of the timer, whatever was ordered
  later. -/
  serves : ∀ o ∈ firstOrder? es, r.executor = some o.executor ∧ ∃ j, jobs r = [j] ∧ Serves j o
  /-- The timer runs just when it was started since the last stop. -/
  running : isRunning r = (sinceStop es).any Event.hasStarted
  /-- Each timer so far was made, given its job, started once at most, and stopped just once if it
  was started and is gone. -/
  calls : ∃ past : List (Job × Bool),
    r.world.timerCalls = past.flatMap pastCalls ++ presentCalls r
  /-- Every move went as it should. -/
  fair : ∀ e ∈ es, e.IsFair

/-! ## What becomes of a move -/

section Events

variable {e : Event} {es : List Event} {o : Order} {r s : Run}

namespace Event

theorem order?_of_not_isDone (h : e.isDone = false) : e.order? = none := by
  rw [order?]
  split
  · rw [if_neg (by simp [h])]
  · rfl

theorem hasStarted_of_not_isDone (h : e.isDone = false) : e.hasStarted = false := by
  rw [hasStarted]
  split
  · exact h
  · rfl

/-- Who sets up a timer, with the order `o`, does not stop or start it. -/
theorem of_order?_eq_some (h : e.order? = some o) :
    e.isDone = true ∧ e.isStop = false ∧ e.hasStarted = false := by
  rw [order?] at h
  rw [isStop, hasStarted]
  split at h
  · rename_i hmove
    rw [hmove]
    exact ⟨(Option.ite_none_right_eq_some.1 h).1, rfl, rfl⟩
  · cases h

/-- Who starts a timer does not stop it or set it up: `hasStarted` goes with no `order?`. -/
theorem of_hasStarted (h : e.hasStarted = true) :
    e.isDone = true ∧ e.isStop = false ∧ e.order? = none := by
  rw [hasStarted] at h
  rw [isStop, order?]
  split at h
  · rename_i hmove
    rw [hmove]
    exact ⟨h, rfl, rfl⟩
  · cases h

/-- A move that is refused, by `Move.IsRefused`, is no stop. -/
theorem isStop_of_isRefused (h : e.move.IsRefused e.before) : e.isStop = false := by
  rw [isStop]
  split
  · rename_i hmove
    rw [hmove] at h
    exact h.elim
  · rfl

/-- **What the event `e` may do.** -/
inductive Effect (e : Event) : Prop
  /-- It is refused, and does nothing. -/
  | refused (undone : e.isDone = false) (why : e.move.IsRefused e.before)
    (same : e.after = e.before)
  /-- It is not refused, and does nothing to the timer. -/
  | idle (done : e.isDone = true) (why : ¬e.move.IsRefused e.before) (going : e.isStop = false)
    (same : e.before.Besides e.after) (ordered : e.before.timer = none → e.order? = none)
    (started : e.hasStarted = true → isRunning e.before = true)
  /-- It sets up a timer with a job. -/
  | made {o : Order} {j : Job} (why : ¬e.move.IsRefused e.before) (ordered : e.order? = some o)
    (unset : e.before.timer = none) (timer : e.after.timer = some ⟨[j], false⟩)
    (executor : e.after.executor = some o.executor) (serves : Serves j o)
    (calls : e.after.world.timerCalls = e.before.world.timerCalls ++ lifeCalls false j)
  /-- It starts the timer. -/
  | started {t : Timer} (why : ¬e.move.IsRefused e.before) (started : e.hasStarted = true)
    (before : e.before.timer = some t) (resting : t.running = false)
    (timer : e.after.timer = some t.start) (executor : e.after.executor = e.before.executor)
    (calls : e.after.world.timerCalls = e.before.world.timerCalls ++ [.startTimer])
  /-- It stops the timer. -/
  | stopped (done : e.isDone = true) (why : ¬e.move.IsRefused e.before) (stop : e.isStop = true)
    (timer : e.after.timer = none) (executor : e.after.executor = none)
    (calls : e.after.world.timerCalls =
      e.before.world.timerCalls ++ if isRunning e.before then [.stopTimer] else [])

theorem isDone_of_on {a : Except Failure Unit} (h : e.move.act.on e.before = (a, s)) :
    e.isDone = a.isOk ∧ e.after = s := by
  rw [isDone, answer, after, h]
  exact ⟨rfl, rfl⟩

variable {x : Executor} {interval : Duration} {given : Option Reading} {b : Run}

theorem not_isRefused_of_ok {first : DateTime}
    (h : nextTick interval.wholeSeconds (clock b given) = .ok first) :
    ¬Move.IsRefused b (.setUp x interval given) := by
  rintro ⟨-, hf⟩
  obtain ⟨f, hf⟩ := exists_nextTick_eq_error_iff.2 hf
  cases h.symm.trans hf

/-- **A timer that is set up with whole seconds** gets its job: that is the `Effect` of `setUp`. -/
theorem effect_setUp_of_dvd {first : DateTime} (h : b.timer = none) (hs : b.world.SparesTimer)
    (hrange : Duration.ofMicros? interval.micros = some interval)
    (hfirst : nextTick interval.wholeSeconds (clock b given) = .ok first)
    (hdvd : (microsPerSecond : ℤ) ∣ interval.micros) : Effect ⟨.setUp x interval given, b⟩ := by
  have hno : ¬Move.IsRefused b (.setUp x interval given) := not_isRefused_of_ok hfirst
  obtain ⟨n, hn⟩ := hdvd
  rw [mul_comm] at hn
  have hlong : microsPerSecond ≤ interval.micros := not_lt.1 fun hshort => hno ⟨h, .inl hshort⟩
  have hmicros : 0 < interval.micros := lt_of_lt_of_le (by decide) hlong
  have hpos : 0 < n := (mul_pos_iff_of_pos_right (by decide)).1 (hn ▸ hmicros)
  obtain ⟨j, hjob, hid, hj, hperiod⟩ := backupJob?_of_eq_mul hpos hn hrange first
  obtain ⟨hdone, hafter⟩ := isDone_of_on (e := ⟨.setUp x interval given, b⟩)
    (setUp_on_job h hs hfirst hjob)
  have hcalls : ((b.world.record .makeTimer).record (jobCall j)).timerCalls =
      b.world.timerCalls ++ lifeCalls false j := by
    rw [World.timerCalls_record rfl, World.timerCalls_record rfl, List.append_assoc]
    rfl
  refine .made hno (if_pos hdone) h ?_ ?_ ⟨hid, hperiod, hj ▸ hfirst⟩ ?_
  · rw [hafter]
  · rw [hafter]
  · rw [hafter]
    exact hcalls

theorem effect_setUp (hs : b.world.SparesTimer)
    (hrange : Duration.ofMicros? interval.micros = some interval)
    (hwhole : Makes ⟨.setUp x interval given, b⟩ interval →
      (microsPerSecond : ℤ) ∣ interval.micros) : Effect ⟨.setUp x interval given, b⟩ := by
  rcases htimer : b.timer with _ | t
  · rcases hfirst : nextTick interval.wholeSeconds (clock b given) with f | first
    · obtain ⟨hdone, hafter⟩ := isDone_of_on (e := ⟨.setUp x interval given, b⟩)
        (setUp_on_error htimer hfirst)
      exact .refused hdone ⟨htimer, exists_nextTick_eq_error_iff.1 ⟨f, hfirst⟩⟩ hafter
    · exact effect_setUp_of_dvd htimer hs hrange hfirst
        (hwhole ⟨htimer, x, given, first, rfl, hfirst⟩)
  · obtain ⟨hdone, hafter⟩ := isDone_of_on (e := ⟨.setUp x interval given, b⟩)
      (setUp_on_set (by rw [htimer]; rfl))
    refine .idle hdone ?_ rfl ?_ ?_ fun hstart => absurd hstart Bool.false_ne_true
    · rintro ⟨hnone, -⟩
      cases htimer.symm.trans hnone
    · rw [hafter]
      exact .refl b
    · intro hnone
      cases htimer.symm.trans hnone

theorem effect_start (hs : b.world.SparesTimer) : Effect ⟨.start, b⟩ := by
  rcases htimer : b.timer with _ | t
  · obtain ⟨hdone, hafter⟩ := isDone_of_on (e := ⟨.start, b⟩) (start_on_none htimer)
    exact .refused hdone htimer hafter
  have hno : ¬Move.IsRefused b .start := fun hnone => nomatch htimer.symm.trans hnone
  rcases hrun : t.running with _ | _
  · obtain ⟨s, hon, hnoted⟩ := start_on_idle htimer hs hrun
    obtain ⟨hdone, hafter⟩ := isDone_of_on (e := ⟨.start, b⟩) hon
    refine .started hno hdone htimer hrun ?_ ?_ ?_
    · rw [hafter, hnoted.timer]
    · rw [hafter, hnoted.executor]
    · rw [hafter, hnoted.world]
      exact World.timerCalls_record rfl
  · obtain ⟨s, hon, hnoted⟩ := start_on_running htimer hrun
    obtain ⟨hdone, hafter⟩ := isDone_of_on (e := ⟨.start, b⟩) hon
    refine .idle hdone hno rfl (hafter ▸ hnoted.besides) (fun _ => rfl) fun _ => ?_
    rw [isRunning, htimer]
    exact hrun

theorem effect_stop (hs : b.world.SparesTimer) : Effect ⟨.stop, b⟩ := by
  rcases hrun : isRunning b with _ | _
  · obtain ⟨hdone, hafter⟩ := isDone_of_on (e := ⟨.stop, b⟩) (stop_on_idle hrun)
    refine .stopped hdone id rfl ?_ ?_ ?_
    · rw [hafter]
    · rw [hafter]
    · rw [hafter, hrun, if_neg Bool.false_ne_true, List.append_nil]
  · obtain ⟨s, hon, hnoted⟩ := stop_on_running hs hrun
    obtain ⟨hdone, hafter⟩ := isDone_of_on (e := ⟨.stop, b⟩) hon
    refine .stopped hdone id rfl ?_ ?_ ?_
    · rw [hafter]
    · rw [hafter]
    · rw [hafter, hrun, if_pos rfl, hnoted.world]
      exact World.timerCalls_record rfl

theorem effect_cycle {given : Option Executor} : Effect ⟨.cycle given, b⟩ := by
  rcases hx : given.or b.executor with _ | x
  · have hon : (runCycleSafely runCycle given).on b = (.error (.lifecycle .noRunner), b) := by
      rw [runCycleSafely, Act.on_get_bind, hx]
      rfl
    obtain ⟨hdone, hafter⟩ := isDone_of_on (e := ⟨.cycle given, b⟩) (Act.on_bind_error hon)
    exact .refused hdone (Option.or_eq_none_iff.1 hx) hafter
  · obtain ⟨s, hon, -⟩ := runCycleSafely_on runCycle hx
    have hbeside := isBeside_runCycleSafely given b
    rw [hon] at hbeside
    obtain ⟨hdone, hafter⟩ := isDone_of_on (e := ⟨.cycle given, b⟩) (Act.on_bind_ok hon)
    refine .idle hdone ?_ rfl (hafter ▸ hbeside) (fun _ => rfl)
      fun hstart => absurd hstart Bool.false_ne_true
    intro hno
    cases hx.symm.trans (Option.or_eq_none_iff.2 hno)

/-- **Every move has one of these effects**, `Event.Effect`, as long as timers are set up with whole
seconds. -/
theorem effect (hs : e.before.world.SparesTimer) (hrange : e.move.InRange)
    (hwhole : ∀ interval, e.Makes interval → (microsPerSecond : ℤ) ∣ interval.micros) :
    e.Effect := by
  obtain ⟨move, b⟩ := e
  cases move with
  | setUp x interval given => exact effect_setUp hs hrange (hwhole interval)
  | start => exact effect_start hs
  | stop => exact effect_stop hs
  | cycle given => exact effect_cycle

/-- A move that is neither a stop nor refused goes as it should: `Event.IsFair`. -/
theorem isFair_of_isDone (done : e.isDone = true) (why : ¬e.move.IsRefused e.before)
    (going : e.isStop = false) : e.IsFair := by
  refine ⟨iff_of_false (by simp [done]) why, fun hundone => ?_, fun hstop => ?_⟩
  · cases hundone.symm.trans done
  · cases hstop.symm.trans going

/-- Whatever a move does of all that is in `Event.Effect`, it goes as it should. -/
theorem Effect.isFair (h : e.Effect) : e.IsFair := by
  cases h with
  | refused undone why same =>
    refine ⟨iff_of_true undone why, fun _ => same, fun hstop => ?_⟩
    cases hstop.symm.trans (isStop_of_isRefused why)
  | idle done why going => exact isFair_of_isDone done why going
  | made why ordered =>
    obtain ⟨hdone, hgoing, -⟩ := of_order?_eq_some ordered
    exact isFair_of_isDone hdone why hgoing
  | started why started =>
    obtain ⟨hdone, hgoing, -⟩ := of_hasStarted started
    exact isFair_of_isDone hdone why hgoing
  | stopped done why _ timer _ calls =>
    refine ⟨iff_of_false (by simp [done]) why, fun hundone => ?_, fun _ => ⟨timer, calls⟩⟩
    cases hundone.symm.trans done

end Event

/-! ## What was asked so far -/

theorem sinceStop_cons (h : e.isStop = false) : sinceStop (e :: es) = e :: sinceStop es :=
  List.takeWhile_cons_of_pos (by simp [h])

theorem sinceStop_cons_of_isStop (h : e.isStop = true) : sinceStop (e :: es) = [] :=
  List.takeWhile_cons_of_neg (by simp [h])

/-- An order counts for `firstOrder?` only if there is none before it. -/
theorem firstOrder?_cons (h : e.isStop = false) :
    firstOrder? (e :: es) = (firstOrder? es).or e.order? := by
  rw [firstOrder?, sinceStop_cons h, List.filterMap_cons, firstOrder?]
  rcases e.order? with _ | o
  · rw [Option.or_none]
  · exact List.getLast?_cons.trans Option.or_some.symm

theorem firstOrder?_cons_of_isStop (h : e.isStop = true) : firstOrder? (e :: es) = none := by
  rw [firstOrder?, sinceStop_cons_of_isStop h]
  rfl

theorem any_hasStarted_cons (h : e.isStop = false) :
    (sinceStop (e :: es)).any Event.hasStarted =
      (e.hasStarted || (sinceStop es).any Event.hasStarted) := by
  rw [sinceStop_cons h, List.any_cons]

/-! ## The timer and the order that counts -/

/-- What there is of the timer in a run, by the order that counts. -/
inductive Standing : Option Order → Run → Prop
  /-- Nothing was ordered. -/
  | unset {r : Run} (timer : r.timer = none) (executor : r.executor = none) : Standing none r
  /-- There is a timer with one job. -/
  | set {o : Order} {r : Run} {j : Job} {running : Bool} (timer : r.timer = some ⟨[j], running⟩)
    (executor : r.executor = some o.executor) (serves : Serves j o) : Standing (some o) r

/-- How the timer in the run `r` agrees with the moves so far, whatever the moves themselves were
like. -/
structure Tracks (es : List Event) (r : Run) : Prop where
  /-- The order that counts is carried out. -/
  standing : Standing (firstOrder? es) r
  /-- The timer runs just when it was started. -/
  running : isRunning r = (sinceStop es).any Event.hasStarted
  /-- Its calls are in order. -/
  calls : ∃ past : List (Job × Bool),
    r.world.timerCalls = past.flatMap pastCalls ++ presentCalls r

theorem Standing.besides {o : Option Order} (h : Standing o r) (hrs : r.Besides s) :
    Standing o s := by
  cases h with
  | unset timer executor => exact .unset (hrs.timer.trans timer) (hrs.executor.trans executor)
  | set timer executor serves =>
    exact .set (hrs.timer.trans timer) (hrs.executor.trans executor) serves

theorem Tracks.besides (h : Tracks es r) (hrs : r.Besides s) : Tracks es s where
  standing := h.standing.besides hrs
  running := hrs.isRunning.trans h.running
  calls := by
    obtain ⟨past, hpast⟩ := h.calls
    refine ⟨past, ?_⟩
    rw [hrs.calls, hpast, presentCalls, presentCalls, hrs.jobs, hrs.isRunning]

/-- The calls of a timer with one job `j` are its `lifeCalls`. -/
theorem presentCalls_of_timer {j : Job} {running : Bool}
    (h : r.timer = some ⟨[j], running⟩) : presentCalls r = lifeCalls running j := by
  rw [presentCalls, jobs, isRunning, h]
  exact List.append_nil _

theorem presentCalls_of_none (h : r.timer = none) : presentCalls r = [] := by
  rw [presentCalls, jobs, h]
  rfl

theorem isRunning_of_timer {t : Timer} (h : r.timer = some t) : isRunning r = t.running := by
  rw [isRunning, h]
  rfl

theorem isRunning_of_none (h : r.timer = none) : isRunning r = false := by
  rw [isRunning, h]
  rfl

theorem Standing.order_eq_none {o : Option Order} (h : Standing o r) (ht : r.timer = none) :
    o = none := by
  cases h with
  | unset => rfl
  | set timer => cases timer.symm.trans ht

/-- A timer that is there, by `Standing`, has one job, by some order `o'`. -/
theorem Standing.of_timer {o : Option Order} {t : Timer} (h : Standing o r)
    (ht : r.timer = some t) : ∃ o' j, o = some o' ∧ t = ⟨[j], t.running⟩ ∧
      r.executor = some o'.executor ∧ Serves j o' := by
  cases h with
  | unset timer => cases ht.symm.trans timer
  | @set o' _ j _ timer executor serves =>
    obtain rfl := Option.some.inj (ht.symm.trans timer)
    exact ⟨o', j, rfl, rfl, executor, serves⟩

/-- An order `o'` that comes later makes no difference to a timer that is there. -/
theorem Standing.or {o o' : Option Order} (h : Standing o r) (ho : r.timer = none → o' = none) :
    Standing (o.or o') r := by
  cases h with
  | unset timer executor =>
    rw [ho timer]
    exact .unset timer executor
  | set timer executor serves => exact .set timer executor serves

/-- With a call to stop it, if `isRunning`, the timer is one of the past. -/
theorem Standing.exists_past {o : Option Order} (h : Standing o r) :
    ∃ past : List (Job × Bool),
      presentCalls r ++ (if isRunning r then [.stopTimer] else []) = past.flatMap pastCalls := by
  cases h with
  | unset timer =>
    refine ⟨[], ?_⟩
    rw [presentCalls_of_none timer, isRunning_of_none timer]
    rfl
  | @set _ _ j running timer =>
    refine ⟨[(j, running)], ?_⟩
    rw [presentCalls_of_timer timer, isRunning_of_timer timer]
    exact (List.append_nil _).symm

namespace Tracks

/-- Nothing becomes of an event that does nothing, unless it should have done something: `Tracks`
goes on. -/
theorem idle (h : Tracks es e.before) (going : e.isStop = false)
    (ordered : e.before.timer = none → e.order? = none)
    (started : e.hasStarted = true → isRunning e.before = true) : Tracks (e :: es) e.before := by
  refine ⟨?_, ?_, h.calls⟩
  · rw [firstOrder?_cons going]
    exact h.standing.or ordered
  · rw [any_hasStarted_cons going, ← h.running]
    rcases hstart : e.hasStarted with _ | _
    · rfl
    · exact started hstart

theorem made {j : Job} (h : Tracks es e.before) (ordered : e.order? = some o)
    (unset : e.before.timer = none) (timer : e.after.timer = some ⟨[j], false⟩)
    (executor : e.after.executor = some o.executor) (serves : Serves j o)
    (calls : e.after.world.timerCalls = e.before.world.timerCalls ++ lifeCalls false j) :
    Tracks (e :: es) e.after := by
  obtain ⟨-, hgoing, hstart⟩ := Event.of_order?_eq_some ordered
  obtain ⟨past, hpast⟩ := h.calls
  refine ⟨?_, ?_, past, ?_⟩
  · rw [firstOrder?_cons hgoing, h.standing.order_eq_none unset, ordered]
    exact .set timer executor serves
  · rw [any_hasStarted_cons hgoing, hstart, ← h.running, isRunning_of_none unset,
      isRunning_of_timer timer]
    rfl
  · rw [calls, hpast, presentCalls_of_none unset, List.append_nil, presentCalls_of_timer timer]

theorem started {t : Timer} (h : Tracks es e.before) (started : e.hasStarted = true)
    (before : e.before.timer = some t) (resting : t.running = false)
    (timer : e.after.timer = some t.start) (executor : e.after.executor = e.before.executor)
    (calls : e.after.world.timerCalls = e.before.world.timerCalls ++ [.startTimer]) :
    Tracks (e :: es) e.after := by
  obtain ⟨-, hgoing, horder⟩ := Event.of_hasStarted started
  obtain ⟨past, hpast⟩ := h.calls
  obtain ⟨o, j, ho, ht, hexecutor, hserves⟩ := h.standing.of_timer before
  rw [resting] at ht
  rw [ht] at before timer
  refine ⟨?_, ?_, past, ?_⟩
  · rw [firstOrder?_cons hgoing, ho, horder, Option.or_none]
    exact .set timer (executor.trans hexecutor) ⟨hserves.id, hserves.interval, hserves.first⟩
  · rw [any_hasStarted_cons hgoing, started, isRunning_of_timer timer]
    rfl
  · rw [calls, hpast, presentCalls_of_timer before, presentCalls_of_timer timer, List.append_assoc]
    rfl

theorem stopped (h : Tracks es e.before) (stop : e.isStop = true) (timer : e.after.timer = none)
    (executor : e.after.executor = none)
    (calls : e.after.world.timerCalls =
      e.before.world.timerCalls ++ if isRunning e.before then [.stopTimer] else []) :
    Tracks (e :: es) e.after := by
  obtain ⟨past, hpast⟩ := h.calls
  obtain ⟨last, hlast⟩ := h.standing.exists_past
  refine ⟨?_, ?_, past ++ last, ?_⟩
  · rw [firstOrder?_cons_of_isStop stop]
    exact .unset timer executor
  · rw [sinceStop_cons_of_isStop stop, isRunning_of_none timer]
    rfl
  · rw [calls, hpast, List.append_assoc, hlast, List.flatMap_append, presentCalls_of_none timer,
      List.append_nil]

/-- **Whatever the event `e` does, the timer agrees with what was asked afterwards**, by
`Tracks`. -/
theorem next (h : Tracks es e.before) (he : e.Effect) : Tracks (e :: es) e.after := by
  cases he with
  | refused undone why same =>
    rw [same]
    refine h.idle (Event.isStop_of_isRefused why) (fun _ => Event.order?_of_not_isDone undone) ?_
    intro hstart
    cases hstart.symm.trans (Event.hasStarted_of_not_isDone undone)
  | idle _ _ going same ordered started => exact (h.idle going ordered started).besides same
  | made _ ordered unset timer executor serves calls =>
    exact h.made ordered unset timer executor serves calls
  | started _ started before resting timer executor calls =>
    exact h.started started before resting timer executor calls
  | stopped _ _ stop timer executor calls => exact h.stopped stop timer executor calls

end Tracks

/-! ## Histories -/

/-- The timer agrees with what was asked, by `Sound`, if every move has gone as it should, by
`IsFair`. -/
theorem Tracks.sound (h : Tracks es r) (hfair : ∀ e ∈ es, e.IsFair) : Sound es r := by
  obtain ⟨hstanding, hrunning, hcalls⟩ := h
  generalize ho : firstOrder? es = o at hstanding
  cases hstanding with
  | unset timer executor =>
    have hjobs : jobs r = [] := by
      rw [jobs, timer]
      rfl
    refine ⟨iff_of_true timer executor, iff_of_true hjobs timer, iff_of_true timer ho, ?_, hrunning,
      hcalls, hfair⟩
    intro o ho'
    cases ho.symm.trans ho'
  | @set o _ j running timer executor serves =>
    have hjobs : jobs r = [j] := by
      rw [jobs, timer]
      rfl
    have hset : r.timer ≠ none := by simp [timer]
    refine ⟨iff_of_false hset (by simp [executor]), iff_of_false (by simp [hjobs]) hset,
      iff_of_false hset (by simp [ho]), ?_, hrunning, hcalls, hfair⟩
    intro o' ho'
    obtain rfl : o = o' := Option.some.inj (ho.symm.trans ho')
    exact ⟨executor, j, hjobs, serves⟩

/-- **With whole seconds, all is well**, by `Sound`. -/
theorem History.sound (h : History es r) (hwhole : ∀ e ∈ es, ∀ interval, e.Makes interval →
    (microsPerSecond : ℤ) ∣ interval.micros) : Sound es r := by
  have heffect : Tracks es r ∧ ∀ e ∈ es, e.IsFair := by
    -- an event has one of the effects that are listed, and `Tracks` is kept by each of them
    induction h with
    | nil timer executor calls =>
      refine ⟨⟨.unset timer executor, isRunning_of_none timer, [], ?_⟩,
        fun _ he => absurd he List.not_mem_nil⟩
      rw [calls, presentCalls_of_none timer]
      rfl
    | cons earlier between spared range ih =>
      obtain ⟨hfirst, hrest⟩ := List.forall_mem_cons.1 hwhole
      obtain ⟨htracks, hfair⟩ := ih hrest
      have he := Event.effect spared range hfirst
      exact ⟨(htracks.besides between).next he, List.forall_mem_cons.2 ⟨he.isFair, hfair⟩⟩
  exact heffect.1.sound heffect.2

/-- **A timer that is not set up with whole seconds is not what it should be**: it is left behind
without its job, or its job does not keep to `interval`. -/
theorem Sound.dvd_of_makes {interval : Duration} (h : Sound es r) (hr : r.Besides e.before)
    (hs : e.before.world.SparesTimer) (h' : Sound (e :: es) e.after) (hmakes : e.Makes interval) :
    (microsPerSecond : ℤ) ∣ interval.micros := by
  obtain ⟨hunset, x, given, first, hmove, hfirst⟩ := hmakes
  obtain ⟨move, b⟩ := e
  obtain rfl : move = .setUp x interval given := hmove
  rcases hjob : backupJob? interval first with _ | j
  · obtain ⟨hdone, hafter⟩ := Event.isDone_of_on (e := ⟨.setUp x interval given, b⟩)
      (setUp_on_half hunset hs hfirst hjob)
    have hsame := (h'.fair _ List.mem_cons_self).harmless hdone
    cases (congrArg Run.timer (hafter.symm.trans hsame)).trans hunset
  · obtain ⟨hdone, hafter⟩ := Event.isDone_of_on (e := ⟨.setUp x interval given, b⟩)
      (setUp_on_job hunset hs hfirst hjob)
    have horder : Event.order? ⟨.setUp x interval given, b⟩ =
        some ⟨x, interval, clock b given⟩ := if_pos hdone
    have hcounts : firstOrder? (⟨.setUp x interval given, b⟩ :: es) =
        some ⟨x, interval, clock b given⟩ := by
      rw [firstOrder?_cons rfl, h.ordered.1 (hr.timer.symm.trans hunset), horder]
      rfl
    obtain ⟨-, j', hjobs, hserves⟩ := h'.serves _ hcounts
    rw [hafter] at hjobs
    obtain rfl : j = j' := List.singleton_injective hjobs
    obtain ⟨-, -, hperiod⟩ := micros_of_backupJob? hjob
    rw [hserves.interval] at hperiod
    exact Dvd.intro_left _ hperiod.symm

/-- **When the timer agrees with what was asked.**  At every point of the history `es` all is well
with the timer, by `Sound`, just when every timer was set up with whole seconds. -/
theorem History.sound_iff (h : History es r) :
    (∀ es' r', es' <:+ es → History es' r' → Sound es' r') ↔
      ∀ e ∈ es, ∀ interval, e.Makes interval → (microsPerSecond : ℤ) ∣ interval.micros := by
  constructor
  · intro hsound
    induction h with
    | nil => exact fun _ he => absurd he List.not_mem_nil
    | @cons es r e earlier between spared range ih =>
      have hearlier := hsound es r (List.suffix_cons e es) earlier
      have hlast := hsound _ _ (List.suffix_refl _) (.cons earlier between spared range)
      refine List.forall_mem_cons.2 ⟨fun interval => hearlier.dvd_of_makes between spared hlast, ?_⟩
      exact ih fun es' r' hs => hsound es' r' (hs.trans (List.suffix_cons e es))
  · intro hwhole es' r' hs h'
    exact h'.sound fun e he => hwhole e (hs.subset he)

end Events

/-! ## Moves in a row -/

/-- The run after some events, the last one first. -/
def lastRun : List Event → Run
  | [] => {}
  | e :: _ => e.after

/-- Moves made one after the other, the last one first, with nothing between them. -/
def made : List Move → List Event
  | [] => []
  | move :: earlier => ⟨move, lastRun (made earlier)⟩ :: made earlier

theorem map_move_made (moves : List Move) : (made moves).map Event.move = moves := by
  induction moves with
  | nil => rfl
  | cons move earlier ih => rw [made, List.map_cons, ih]

theorem history_made {moves : List Move} (hrange : ∀ move ∈ moves, move.InRange)
    (hs : ∀ e ∈ made moves, e.before.world.faults = []) :
    History (made moves) (lastRun (made moves)) := by
  induction moves with
  | nil => exact .nil rfl rfl rfl
  | cons move earlier ih =>
    obtain ⟨hmove, hearlier⟩ := List.forall_mem_cons.1 hrange
    obtain ⟨hfirst, hrest⟩ := List.forall_mem_cons.1 hs
    refine .cons (ih hearlier hrest) (.refl _) (fun c _ f hf => ?_) hmove
    rw [hfirst] at hf
    exact absurd hf List.not_mem_nil

/-- Backups every hour are ordered, then some every minute, and the timer is started and stopped.
It was also started too early. -/
def hourly : List Move :=
  let x : Executor := .keeping "backups" "a" 1
  [.stop, .start, .setUp x ⟨60000000⟩ none, .setUp x ⟨3600000000⟩ (some (.whole 7230)), .start]

theorem calm_hourly : ∀ e ∈ made hourly, e.before.world.faults = [] := by
  have hall : ((made hourly).all fun e => e.before.world.faults.isEmpty) = true := by
    decide +kernel
  exact fun e he => List.isEmpty_iff.1 (List.all_eq_true.1 hall e he)

/-- The timer is made for the first order, started and stopped once, and all is well with it. -/
theorem sound_hourly :
    History (made hourly) (lastRun (made hourly)) ∧
      (lastRun (made hourly)).world.timerCalls.map Call.name =
        ["scheduler", "add_job", "start", "shutdown"] ∧
      ∀ es' r', es' <:+ made hourly → History es' r' → Sound es' r' := by
  have hrange : ∀ move ∈ hourly, move.InRange := by
    simp only [hourly, List.forall_mem_cons]
    have hminute : Duration.ofMicros? 60000000 = some ⟨60000000⟩ := by decide
    have hhour : Duration.ofMicros? 3600000000 = some ⟨3600000000⟩ := by decide
    exact ⟨trivial, trivial, hminute, hhour, trivial, fun _ h => absurd h List.not_mem_nil⟩
  have hwhole : ∀ move ∈ hourly, ∀ x interval given, move = .setUp x interval given →
      (microsPerSecond : ℤ) ∣ interval.micros := by
    simp only [hourly, List.forall_mem_cons]
    refine ⟨fun _ _ _ h => (nomatch h), fun _ _ _ h => (nomatch h), ?_, ?_,
      fun _ _ _ h => (nomatch h), fun _ h => absurd h List.not_mem_nil⟩
    · rintro _ _ _ ⟨⟩
      decide
    · rintro _ _ _ ⟨⟩
      decide
  have h := history_made hrange calm_hourly
  refine ⟨h, by decide +kernel, h.sound_iff.2 fun e he interval hmakes => ?_⟩
  obtain ⟨-, x, given, -, hset, -⟩ := hmakes
  have hmove := List.mem_map_of_mem (f := Event.move) he
  rw [map_move_made] at hmove
  exact hwhole _ hmove x interval given hset

/-- A timer that is set up with `interval` before anything else, at five seconds before 1970. -/
def firstSetUp (interval : Duration) : List Event :=
  made [.setUp (.keeping "backups" "a" 1) interval (some (.whole (-5)))]

theorem history_firstSetUp {interval : Duration}
    (h : Duration.ofMicros? interval.micros = some interval) :
    History (firstSetUp interval) (lastRun (firstSetUp interval)) :=
  history_made (List.forall_mem_singleton.2 h) (List.forall_mem_singleton.2 rfl)

theorem not_sound_firstSetUp {interval : Duration} {first : DateTime}
    (hfirst : nextTick interval.wholeSeconds (.whole (-5)) = .ok first)
    (hodd : ¬(microsPerSecond : ℤ) ∣ interval.micros) :
    ¬Sound (firstSetUp interval) (lastRun (firstSetUp interval)) := by
  have hnil : Sound [] {} := History.sound (.nil rfl rfl rfl) fun _ he => absurd he List.not_mem_nil
  exact fun hsound => hodd (hnil.dvd_of_makes (.refl _) sparesTimer_default hsound
    ⟨rfl, _, _, first, rfl, hfirst⟩)

/-- **A timer that `setUp` gives one and a half seconds runs once in a second, and one that it gives
the longest of all durations has no job**: its whole seconds are no duration, which is found out
when the timer is there already. -/
theorem not_sound_uneven_longest :
    (History (firstSetUp ⟨1500000⟩) (lastRun (firstSetUp ⟨1500000⟩)) ∧
      (firstSetUp ⟨1500000⟩).map Event.isDone = [true] ∧
      (jobs (lastRun (firstSetUp ⟨1500000⟩))).map (·.interval) = [⟨1000000⟩] ∧
      ¬Sound (firstSetUp ⟨1500000⟩) (lastRun (firstSetUp ⟨1500000⟩))) ∧
    History (firstSetUp ⟨86399999999999999999⟩) (lastRun (firstSetUp ⟨86399999999999999999⟩)) ∧
      (firstSetUp ⟨86399999999999999999⟩).map Event.isDone = [false] ∧
      (lastRun (firstSetUp ⟨86399999999999999999⟩)).timer = some {} ∧
      ¬Sound (firstSetUp ⟨86399999999999999999⟩)
        (lastRun (firstSetUp ⟨86399999999999999999⟩)) := by
  have huneven : Duration.ofMicros? 1500000 = some ⟨1500000⟩ := by decide +kernel
  have hlongest : Duration.ofMicros? 86399999999999999999 = some ⟨86399999999999999999⟩ := by
    decide +kernel
  refine ⟨⟨history_firstSetUp huneven, by decide +kernel, by decide +kernel, ?_⟩,
    history_firstSetUp hlongest, by decide +kernel, by decide +kernel, ?_⟩
  · exact not_sound_firstSetUp rfl (by decide)
  · exact not_sound_firstSetUp rfl (by decide)

end Schedule

end DumpKeeper
