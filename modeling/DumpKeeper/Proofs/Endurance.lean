import DumpKeeper.Proofs.Apart
import DumpKeeper.Proofs.Decision
import DumpKeeper.Proofs.Timetable

/-!
# Backups that go on

The program waits for the delay, if there is one, and then makes a single backup, or one backup at
every tick until it is asked to stop.  What a `cycle` does is no matter here: as long as cycles have
no hold on the scheduler, one that fails is reported as such, and the next tick comes as if nothing
had happened.  Whatever happens in the delay, it passes, if only the system can wait for so long.

* `World.scheduleCalls`, `World.SparesSchedule` — the calls of the scheduler that were made, and a
  world in which none of them fails.
* `Run.Forbears` — between two runs nothing has happened to the scheduler.
* `Schedule.Delaying` — the delay, cut short or not, and `Course.Bears`: it can be waited for.
* `Schedule.Ticking` — ticks, each with a cycle of the same executor.
* `Schedule.Goes` — the three ways in which backups can go: stopped within the delay, made once, and
  made at every tick.
* `Schedule.goes_iff` — `run` goes in one of these ways, unless the system cannot wait for the
  delay, or the whole seconds of the interval are no duration.
* `Schedule.goes_iff_bears` — from 1970 on, intervals are not too long for that.
* `Schedule.not_goes_longDelay` — a delay with which it fails.
-/

set_option autoImplicit false

namespace DumpKeeper

/-! ## Calls of the scheduler -/

namespace World

variable {w : World} {c : Call}

/-- The calls of the scheduler that were made in the world `w`. -/
def scheduleCalls (w : World) : List Call := w.calls.filter Call.isSchedules

/-- No fault is planned in the world `w` for a call of the scheduler. -/
def SparesSchedule (w : World) : Prop :=
  ∀ c : Call, c.isSchedules = true → ∀ e ∈ w.faults, e.1 ≠ c.name

theorem SparesSchedule.sparesTimer (h : w.SparesSchedule) : w.SparesTimer := fun c hc =>
  h c (by cases c <;> first | rfl | cases hc)

@[simp] theorem scheduleCalls_record (h : c.isSchedules = true) :
    (w.record c).scheduleCalls = w.scheduleCalls ++ [c] := by
  rw [scheduleCalls, scheduleCalls, record, List.filter_append, List.filter_cons_of_pos h,
    List.filter_nil]

end World

/-- Between `r` and `s` nothing has happened to the scheduler. -/
structure Run.Forbears (r s : Run) : Prop where
  /-- The timer is the same. -/
  timer : s.timer = r.timer
  /-- It makes the backups of the same executor. -/
  executor : s.executor = r.executor
  /-- The scheduler has made no calls. -/
  calls : s.world.scheduleCalls = r.world.scheduleCalls
  /-- No fault was planned for one. -/
  spares : r.world.SparesSchedule → s.world.SparesSchedule

namespace Run

variable {r s t : Run}

theorem Forbears.refl (r : Run) : r.Forbears r := ⟨rfl, rfl, rfl, id⟩

theorem Forbears.trans (h : r.Forbears s) (h' : s.Forbears t) : r.Forbears t :=
  ⟨h'.timer.trans h.timer, h'.executor.trans h.executor, h'.calls.trans h.calls,
    h'.spares ∘ h.spares⟩

theorem Noted.forbears (h : r.Noted s) : r.Forbears s :=
  ⟨h.timer, h.executor, by rw [h.world], fun hr => by rwa [h.world]⟩

theorem Within.forbears {K : Call → Bool} (h : r.Within K s)
    (hK : ∀ c, K c = true → c.isSchedules = false) : r.Forbears s :=
  ⟨h.timer, h.executor, h.calls.filter_eq hK, fun hr c hc e he => hr c hc e (h.faults he)⟩

end Run

/-- **A cycle does nothing to the scheduler**, by `Run.Forbears`. -/
theorem forbears_runCycle (x : Executor) (r : Run) : r.Forbears ((runCycle x).on r).2 :=
  ((isModest_runCycle x).within r).forbears fun c hc => by cases c <;> first | rfl | cases hc

/-! ## Stages of a run -/

/-- The calls that wait for `delay`: one, or none if there is no delay. -/
def Schedule.waits (delay : Duration) : List Call :=
  if 0 < delay.micros then [.wait (some (secondsOf delay))] else []

/-- The run in which the wait for `delay` begins. -/
def Run.waiting (r : Run) (delay : Duration) : Run :=
  { r with world := { r.world with calls := r.world.calls ++ Schedule.waits delay } }

/-- The run `r` once the timer is at work with the job `j` for `x`, and ticks are waited for. -/
def Run.serving (r : Run) (x : Executor) (j : Job) : Run :=
  { r with timer := some (Timer.start ⟨[j], false⟩), executor := some x,
           world := { r.world with
             calls := r.world.calls ++ [.makeTimer, Schedule.jobCall j, .startTimer, .wait none] } }

/-- The run `r` once the timer is stopped and forgotten. -/
def Run.closed (r : Run) : Run :=
  { r with timer := none, executor := none, world := r.world.record .stopTimer }

namespace Schedule

variable {cycle : Executor → Act (Option String)} {listens : Bool} {c : Course} {x : Executor}
  {interval delay : Duration} {once : Bool} {r s : Run}

/-! ## Being asked to stop -/

/-- Whether a request to stop is heeded by a program that `listens` to signals or does not. -/
def Stop.isHeeded (listens : Bool) : Stop → Bool
  | .direct => true
  | .signal name => listens && stopSignals.contains name

/-- The program is asked to stop before the delay begins, by `beforeDelay`, and heeds it. -/
def Course.IsCutAtOnce (c : Course) (listens : Bool) : Prop :=
  c.beforeDelay.any (Stop.isHeeded listens) = true

/-- The program is asked to stop within the delay or before it, and heeds it. -/
def Course.IsCutShort (c : Course) (listens : Bool) : Prop :=
  c.IsCutAtOnce listens ∨ c.duringDelay.any (Stop.isHeeded listens) = true

/-- The system can wait for `delay`, or does not have to. -/
def Course.Bears (c : Course) (listens : Bool) (delay : Duration) : Prop :=
  c.IsCutAtOnce listens ∨ c.canWait delay = true

theorem heed_on (listens : Bool) (stop : Stop) (r : Run) :
    ∃ s, (heed listens stop).on r = (.ok (stop.isHeeded listens), s) ∧ r.Noted s := by
  cases stop with
  | direct => exact ⟨r, rfl, .refl r⟩
  | signal name =>
    rw [heed, Stop.isHeeded]
    split
    · rename_i h
      obtain ⟨s, hs, hrs⟩ := Act.say_noted .info .commandLine
        ("Received " ++ name ++ ", shutting down") r
      exact ⟨s, by rw [h]; exact Act.on_bind_ok hs, hrs⟩
    · rename_i h
      rw [Bool.not_eq_true] at h
      exact ⟨r, by rw [h]; rfl, .refl r⟩

theorem heedAny_on (listens : Bool) (stop? : Option Stop) (r : Run) :
    ∃ s, (heedAny listens stop?).on r = (.ok (stop?.any (Stop.isHeeded listens)), s) ∧
      r.Noted s := by
  rcases stop? with _ | stop
  · exact ⟨r, rfl, .refl r⟩
  · exact heed_on listens stop r

/-! ## The delay -/

/-- However `waitDelay` goes, its answer is whether the program was asked to stop. -/
theorem waitDelay_ends (listens : Bool) (c : Course) (delay : Duration) (r : Run) :
    (waitDelay listens c delay).Ends r (fun asked _ => asked = true ↔ c.IsCutShort listens)
      fun _ _ => True := by
  have hany : ∀ (t : Act Unit) (r : Run), t.Ends r (fun _ _ => True) fun _ _ => True :=
    fun _ _ => ⟨fun _ => trivial, fun _ => trivial⟩
  obtain ⟨q, hq, -⟩ := heedAny_on listens c.beforeDelay r
  rw [waitDelay]
  refine Act.Ends.bind_ok hq ((hany _ q).bind fun _ s _ => ?_)
  by_cases hcut : c.IsCutAtOnce listens
  · rw [show c.beforeDelay.any (Stop.isHeeded listens) = true from hcut]
    exact Act.Ends.pure (iff_of_true rfl (.inl hcut))
  rw [Bool.eq_false_iff.2 hcut]
  by_cases hable : c.canWait delay = true
  · simp only [hable, Bool.false_eq_true, if_false, Bool.not_true]
    refine (hany _ s).bind fun _ t _ => ?_
    obtain ⟨u, hu, -⟩ := heedAny_on listens c.duringDelay t
    exact Act.ends_of_ok hu ⟨.inr, fun h => h.resolve_left hcut⟩
  · simp only [hable, Bool.false_eq_true, if_false, Bool.not_false, if_true]
    have hfail : Act.Ends (fail (.broken .outOfRange) : Act Unit) s (fun _ _ => False)
        fun _ _ => True := Act.Ends.fail trivial
    exact hfail.bind fun _ _ h => h.elim

/-- **`passDelay` is cut short** just when there is a delay and the program is asked to stop in
it. -/
theorem passDelay_ends (listens : Bool) (c : Course) (delay : Duration) (r : Run) :
    (passDelay listens c delay).Ends r
      (fun cut _ => cut = true ↔ 0 < delay.micros ∧ c.IsCutShort listens) fun _ _ => True := by
  rw [passDelay]
  by_cases hd : 0 < delay.micros
  · rw [if_pos hd]
    refine (Act.isAside_say _ _ _).ends_bind fun _ s _ => ?_
    refine (waitDelay_ends listens c delay s).bind fun asked t hasked => ?_
    have hcut := hasked.trans (and_iff_right hd).symm
    rcases asked with _ | _
    · exact Act.Ends.pure hcut
    · exact (Act.isAside_say _ _ _).ends_bind fun _ _ _ => Act.Ends.pure hcut
  · rw [if_neg hd]
    exact Act.Ends.pure (iff_of_false Bool.false_ne_true fun h => hd h.1)

/-- `act` does nothing to the scheduler, and cannot fail. -/
def Peaceful (act : Act Unit) : Prop :=
  ∀ r : Run, ∃ s, act.on r = (.ok (), s) ∧ r.Forbears s

/-- **The `delay`** before the first backup, begun in the run `r`: whether it is cut short, and the
run that it leaves.  The clock may be a different one then. -/
inductive Delaying (listens : Bool) (c : Course) (delay : Duration) (r : Run) : Bool → Run → Prop
  /-- There is none. -/
  | none (idle : ¬0 < delay.micros) : Delaying listens c delay r false r
  /-- The program was asked to stop before: the wait ends as it begins. -/
  | early {s : Run} (waits : 0 < delay.micros) (asked : c.IsCutAtOnce listens)
      (noted : (r.waiting delay).Noted s) : Delaying listens c delay r true s
  /-- The wait ends when the delay is over, or when the program is asked to stop. -/
  | late {a b s : Run} (waits : 0 < delay.micros) (unasked : ¬c.IsCutAtOnce listens)
      (able : c.canWait delay = true) (begun : (r.waiting delay).Noted a)
      (meanwhile : c.meanwhile.on a = (.ok (), b)) (unmoved : a.Forbears b) (noted : b.Noted s) :
      Delaying listens c delay r (c.duringDelay.any (Stop.isHeeded listens)) s

/-- Without a `delay` there is no wait. -/
theorem waiting_of_not_pos (hd : ¬0 < delay.micros) : r.waiting delay = r := by
  rw [Run.waiting, waits, if_neg hd, List.append_nil]

/-- The call that begins the wait for `delay`. -/
theorem record_wait (hd : 0 < delay.micros) :
    { r with world := r.world.record (.wait (some (secondsOf delay))) } = r.waiting delay := by
  rw [Run.waiting, waits, if_pos hd]
  rfl

/-- The `delay` is cut short just when there is one and the program is asked to stop in it. -/
theorem Delaying.cut_iff {cut : Bool} (h : Delaying listens c delay r cut s) :
    cut = true ↔ 0 < delay.micros ∧ c.IsCutShort listens := by
  cases h with
  | none idle => exact iff_of_false Bool.false_ne_true fun h => idle h.1
  | early waits asked _ => exact iff_of_true rfl ⟨waits, .inl asked⟩
  | late waits unasked _ _ _ _ _ =>
    exact ⟨fun h => ⟨waits, .inr h⟩, fun h => h.2.resolve_left unasked⟩

/-- In the `delay` nothing happens to the scheduler, but for the wait. -/
theorem Delaying.forbears {cut : Bool} (h : Delaying listens c delay r cut s) :
    (r.waiting delay).Forbears s := by
  cases h with
  | none idle =>
    rw [waiting_of_not_pos idle]
    exact .refl r
  | early _ _ noted => exact noted.forbears
  | late _ _ _ begun _ unmoved noted => exact (begun.forbears.trans unmoved).trans noted.forbears

/-- A `delay` that passes is one that can be waited for. -/
theorem Delaying.bears {cut : Bool} (h : Delaying listens c delay r cut s)
    (hd : 0 < delay.micros) : c.Bears listens delay := by
  cases h with
  | none idle => exact (idle hd).elim
  | early _ asked _ => exact .inl asked
  | late _ _ able _ _ _ _ => exact .inr able

/-- The wait may have begun with more in the journal of `r`. -/
theorem Delaying.noted_left {cut : Bool} {q : Run} (h : Delaying listens c delay q cut s)
    (hr : (r.waiting delay).Noted (q.waiting delay)) (hd : 0 < delay.micros) :
    Delaying listens c delay r cut s := by
  cases h with
  | none idle => exact (idle hd).elim
  | early waits asked noted => exact .early waits asked (hr.trans noted)
  | late waits unasked able begun meanwhile unmoved noted =>
    exact .late waits unasked able (hr.trans begun) meanwhile unmoved noted

/-- The wait may end with more in the journal of `t`. -/
theorem Delaying.noted {t : Run} (h : Delaying listens c delay r true s) (hs : s.Noted t) :
    Delaying listens c delay r true t := by
  generalize hcut : true = cut at h ⊢
  cases h with
  | none idle => cases hcut
  | early waits asked noted => exact .early waits asked (noted.trans hs)
  | late waits unasked able begun meanwhile unmoved noted =>
    exact .late waits unasked able begun meanwhile unmoved (noted.trans hs)

/-- What `waitDelay` waits for is the delay, whatever comes of it. -/
theorem waitDelay_on (listens : Bool) (c : Course) (h : r.world.SparesSchedule)
    (hc : Peaceful c.meanwhile) (hd : 0 < delay.micros) :
    (c.Bears listens delay → ∃ asked s, (waitDelay listens c delay).on r = (.ok asked, s) ∧
      Delaying listens c delay r asked s) ∧
    (¬c.Bears listens delay → ∃ s, (waitDelay listens c delay).on r =
      (.error (.broken .outOfRange), s) ∧ (r.waiting delay).Noted s) := by
  obtain ⟨q, hq, hrq⟩ := heedAny_on listens c.beforeDelay r
  have hwait := Act.on_request_of_forall_ne
    (hrq.forbears.spares h (.wait (some (secondsOf delay))) rfl)
  rw [record_wait hd] at hwait
  have hnoted : (r.waiting delay).Noted (q.waiting delay) := by
    rw [Run.Noted] at hrq ⊢
    rw [hrq]
    rfl
  rw [waitDelay, Act.on_bind_ok hq, Act.on_bind_ok hwait]
  by_cases hcut : c.IsCutAtOnce listens
  · rw [show c.beforeDelay.any (Stop.isHeeded listens) = true from hcut]
    exact ⟨fun _ => ⟨true, _, rfl, .early hd hcut hnoted⟩, fun hb => (hb (.inl hcut)).elim⟩
  rw [Bool.eq_false_iff.2 hcut]
  by_cases hable : c.canWait delay = true
  · obtain ⟨b, hb, hqb⟩ := hc (q.waiting delay)
    obtain ⟨s, hs, hbs⟩ := heedAny_on listens c.duringDelay b
    refine ⟨fun _ => ⟨_, s, ?_, .late hd hcut hable hnoted hb hqb hbs⟩,
      fun hbears => (hbears (.inr hable)).elim⟩
    simp only [hable, Bool.false_eq_true, if_false, Bool.not_true]
    exact (Act.on_bind_ok hb).trans hs
  · refine ⟨fun hbears => (hbears.resolve_left hcut |> hable).elim, fun _ => ⟨_, ?_, hnoted⟩⟩
    simp only [hable, Bool.false_eq_true, if_false, Bool.not_false, if_true]
    rfl

/-- **The `delay` is waited for once**, before anything else is done; if it cannot be waited for,
`passDelay` fails. -/
theorem passDelay_on (listens : Bool) (c : Course) (delay : Duration)
    (h : r.world.SparesSchedule) (hc : Peaceful c.meanwhile) :
    ((0 < delay.micros → c.Bears listens delay) →
      ∃ cut t, (passDelay listens c delay).on r = (.ok cut, t) ∧
        Delaying listens c delay r cut t) ∧
    (0 < delay.micros → ¬c.Bears listens delay →
      ∃ t, (passDelay listens c delay).on r = (.error (.broken .outOfRange), t) ∧
        (r.waiting delay).Noted t) := by
  rw [passDelay]
  by_cases hd : 0 < delay.micros
  · rw [if_pos hd]
    obtain ⟨u, hsay, hru⟩ := Act.say_noted .info .scheduler
      ("Initially waiting for " ++ delay.compact ++ " to allow for Redis to setup replication") r
    have hnoted : (r.waiting delay).Noted (u.waiting delay) := by
      rw [Run.Noted] at hru ⊢
      rw [hru]
      rfl
    obtain ⟨hgood, hbad⟩ := waitDelay_on listens c (hru.forbears.spares h) hc hd
    rw [Act.on_bind_ok hsay]
    constructor
    · intro hbears
      obtain ⟨asked, t, ht, hut⟩ := hgood (hbears hd)
      have hrt := hut.noted_left hnoted hd
      rw [Act.on_bind_ok ht]
      rcases asked with _ | _
      · exact ⟨false, t, rfl, hrt⟩
      · obtain ⟨v, hv, htv⟩ := Act.say_noted .info .scheduler "Stopped during initial delay" t
        exact ⟨true, v, Act.on_bind_ok hv, hrt.noted htv⟩
    · intro _ hbears
      obtain ⟨t, ht, hut⟩ := hbad hbears
      exact ⟨t, Act.on_bind_error ht, hnoted.trans hut⟩
  · rw [if_neg hd]
    exact ⟨fun _ => ⟨false, r, rfl, .none hd⟩, fun hd' => (hd hd').elim⟩

/-! ## Ticks -/

/-- **Ticks, each with a `cycle` of the same executor**: what comes before them, and whether their
cycles have an answer. -/
inductive Ticking (cycle : Executor → Act (Option String)) (x : Executor) :
    List (Act Unit) → Run → List Bool → Run → Prop
  | none {r : Run} : Ticking cycle x [] r [] r
  | next {before : Act Unit} {behind : List (Act Unit)} {r b t s : Run} {results : List Bool}
      (waited : before.on r = (.ok (), b)) (meanwhile : r.Forbears b)
      (noted : ((cycle x).on b).2.Noted t) (unmoved : b.Forbears t)
      (rest : Ticking cycle x behind
        { t with world := t.world.record (.tick ((cycle x).on b).1.isOk) } results s) :
      Ticking cycle x (before :: behind) r (((cycle x).on b).1.isOk :: results) s

/-- Nothing happens to the scheduler at `ticks`, but for the results that it is told. -/
theorem Ticking.forbears {ticks : List (Act Unit)} {results : List Bool}
    (h : Ticking cycle x ticks r results s) :
    s.timer = r.timer ∧ s.executor = r.executor ∧
      s.world.scheduleCalls = r.world.scheduleCalls ++ results.map .tick ∧
      (r.world.SparesSchedule → s.world.SparesSchedule) := by
  induction h with
  | none => exact ⟨rfl, rfl, (List.append_nil _).symm, id⟩
  | next _ meanwhile _ unmoved _ ih =>
    obtain ⟨htimer, hexecutor, hcalls, hspares⟩ := ih
    have hall := meanwhile.trans unmoved
    refine ⟨htimer.trans hall.timer, hexecutor.trans hall.executor, ?_, hspares ∘ hall.spares⟩
    rw [hcalls]
    dsimp only
    rw [World.scheduleCalls_record rfl, hall.calls, List.append_assoc]
    rfl

/-- **Every tick comes**, whatever becomes of the cycles: what `waitTicks` does with `ticks` is told
by `Ticking`. -/
theorem exists_ticking {ticks : List (Act Unit)}
    (hcycle : ∀ r : Run, r.Forbears ((cycle x).on r).2) (hticks : ∀ before ∈ ticks, Peaceful before)
    (hx : r.executor = some x) :
    ∃ results s, Ticking cycle x ticks r results s ∧
      Act.on (ticks.forM fun before => do
        before
        let result ← runCycleSafely cycle none
        changeWorld fun w => w.record (.tick result)) r = (.ok (), s) := by
  -- any run will do in which the executor is that of the timer, and every tick leaves such a run
  induction ticks generalizing r with
  | nil => exact ⟨[], r, .none, rfl⟩
  | cons before behind ih =>
    obtain ⟨hfirst, hbehind⟩ := List.forall_mem_cons.1 hticks
    obtain ⟨b, hb, hrb⟩ := hfirst r
    have hbx : (none : Option Executor).or b.executor = some x := by
      rw [Option.none_or, hrb.executor, hx]
    obtain ⟨t, ht, hnoted⟩ := runCycleSafely_on cycle hbx
    have hbt : b.Forbears t := (hcycle b).trans hnoted.forbears
    obtain ⟨results, s, hrest, hs⟩ :=
      @ih { t with world := t.world.record (.tick ((cycle x).on b).1.isOk) } hbehind
        (hbt.executor.trans (hrb.executor.trans hx))
    refine ⟨_, s, .next hb hrb hnoted hbt hrest, ?_⟩
    have hone : Act.on (do
        before
        let result ← runCycleSafely cycle none
        changeWorld fun w => w.record (.tick result)) r =
        (.ok (), { t with world := t.world.record (.tick ((cycle x).on b).1.isOk) }) := by
      rw [Act.on_bind_ok hb, Act.on_bind_ok ht]
      rfl
    exact (Act.on_bind_ok hone).trans hs

/-! ## Backups at every tick -/

/-- `waitTicks` waits for ticks until the program is asked to stop, whichever way it is. -/
theorem waitTicks_on (listens : Bool) (hcycle : ∀ r : Run, r.Forbears ((cycle x).on r).2)
    (hticks : ∀ before ∈ c.ticks, Peaceful before) (hx : r.executor = some x)
    (hs : r.world.SparesSchedule) :
    ∃ results t s,
      Ticking cycle x c.ticks { r with world := r.world.record (.wait none) } results t ∧
      t.Noted s ∧ (waitTicks cycle listens c).on r = (.ok (), s) := by
  have hwait := Act.on_request_of_forall_ne (hs (.wait none) rfl)
  obtain ⟨results, t, hticking, hon⟩ :=
    exists_ticking (r := { r with world := r.world.record (.wait none) }) hcycle hticks hx
  obtain ⟨s, hheed, hnoted⟩ := heed_on listens c.ending t
  refine ⟨results, t, s, hticking, hnoted, ?_⟩
  rw [waitTicks, Act.on_bind_ok hwait, Act.on_bind_ok hon]
  exact Act.on_bind_ok hheed

/-- **`afterDelay` makes the timer, gives it its job and starts it, serves every tick, and stops the
timer.** -/
theorem serve_on (listens : Bool) (hcycle : ∀ r : Run, r.Forbears ((cycle x).on r).2)
    (hticks : ∀ before ∈ c.ticks, Peaceful before) (hr : r.timer = none)
    (hs : r.world.SparesSchedule) {first : DateTime} {j : Job}
    (hfirst : nextTick interval.wholeSeconds r.world.now = .ok first)
    (hjob : backupJob? interval first = some j) :
    ∃ results t u s, (r.serving x j).Noted t ∧ Ticking cycle x c.ticks t results u ∧
      u.closed.Noted s ∧
      (afterDelay cycle listens c x interval false).on r = (.ok true, s) := by
  have hset : (setUp x interval none).on r = _ := setUp_on_job hr hs.sparesTimer hfirst hjob
  obtain ⟨v, hstart, hv⟩ := start_on_idle
    (r := { r with executor := some x, timer := some ⟨[j], false⟩,
                   world := (r.world.record .makeTimer).record (jobCall j) })
    rfl hs.sparesTimer rfl
  have hvs : v.world.SparesSchedule := by
    rw [hv.world]
    exact hs
  obtain ⟨results, u, w, hticking, huw, hwait⟩ :=
    waitTicks_on listens hcycle hticks hv.executor hvs
  obtain ⟨htimer, -, -, hspares⟩ := hticking.forbears
  have hrun : isRunning w = true := by
    rw [isRunning, huw.timer, htimer, hv.timer]
    rfl
  have hws : w.world.SparesTimer := by
    rw [huw.world]
    exact (hspares hvs).sparesTimer
  obtain ⟨z, hstop, hz⟩ := stop_on_running hws hrun
  refine ⟨results, _, u, { z with timer := none, executor := none }, ?_, hticking, ?_, ?_⟩
  · rw [Run.Noted] at hv ⊢
    rw [hv, Run.serving]
    simp only [World.record, List.append_assoc, List.cons_append, List.nil_append]
  · rw [Run.Noted] at huw hz ⊢
    rw [hz, huw]
    rfl
  · have hboth : (thenAlways (waitTicks cycle listens c) stop).on v =
        (.ok (), { z with timer := none, executor := none }) := by
      rw [thenAlways, Act.on_bind, Act.on_attempt, hwait]
      exact Act.on_bind_ok hstop
    rw [afterDelay, if_neg Bool.false_ne_true, Act.on_bind_ok hset, Act.on_bind_ok hstart,
      Act.on_bind_ok hboth]
    rfl

/-- `afterDelay` leaves the scheduler behind with a timer that has no job. -/
theorem afterDelay_on_half (hr : r.timer = none) (hs : r.world.SparesSchedule) {first : DateTime}
    (hfirst : nextTick interval.wholeSeconds r.world.now = .ok first)
    (hjob : backupJob? interval first = none) :
    (afterDelay cycle listens c x interval false).on r = (.error (.broken .outOfRange),
      { r with executor := some x, timer := some {}, world := r.world.record .makeTimer }) := by
  rw [afterDelay, if_neg Bool.false_ne_true]
  have hset : (setUp x interval none).on r = _ := setUp_on_half hr hs.sparesTimer hfirst hjob
  exact Act.on_bind_error hset

/-! ## How backups go -/

/-- **How backups go**: the answer, the calls of the scheduler, and the run that is left.  Where
`Delaying` is all that has happened, no cycle was done. -/
inductive Goes (cycle : Executor → Act (Option String)) (listens : Bool) (c : Course)
    (x : Executor) (interval delay : Duration) (once : Bool) (r : Run) :
    Bool → List Call → Run → Prop
  /-- The program is asked to stop within the delay: it waits, and that is all. -/
  | stopped {s : Run} (waits : 0 < delay.micros) (cut : c.IsCutShort listens)
      (delayed : Delaying listens c delay r true s) :
      Goes cycle listens c x interval delay once r true (Schedule.waits delay) s
  /-- A single cycle is done behind the delay; its success is the answer. -/
  | single {t s : Run} (whole : ¬(0 < delay.micros ∧ c.IsCutShort listens)) (one : once = true)
      (delayed : Delaying listens c delay r false t) (noted : ((cycle x).on t).2.Noted s) :
      Goes cycle listens c x interval delay once r ((cycle x).on t).1.isOk (Schedule.waits delay) s
  /-- A cycle is done at every tick behind the delay; however they end, all is well.  The first tick
  is that of the clock when the delay is over. -/
  | served {t u v s : Run} {first : DateTime} {j : Job} {results : List Bool}
      (whole : ¬(0 < delay.micros ∧ c.IsCutShort listens)) (many : once = false)
      (delayed : Delaying listens c delay r false t)
      (next : nextTick interval.wholeSeconds t.world.now = .ok first)
      (job : backupJob? interval first = some j) (begun : (t.serving x j).Noted u)
      (ticks : Ticking cycle x c.ticks u results v) (ended : v.closed.Noted s) :
      Goes cycle listens c x interval delay once r true
        (Schedule.waits delay ++ [.makeTimer, jobCall j, .startTimer, .wait none] ++
          results.map .tick ++ [.stopTimer]) s

/-- The calls of the scheduler that are made for `delay`. -/
theorem scheduleCalls_waiting (r : Run) (delay : Duration) :
    (r.waiting delay).world.scheduleCalls = r.world.scheduleCalls ++ waits delay := by
  have hwaits : (waits delay).filter Call.isSchedules = waits delay := by
    rw [waits]
    split <;> rfl
  rw [World.scheduleCalls, Run.waiting]
  dsimp only
  rw [List.filter_append, hwaits]
  rfl

/-- **However backups go, the scheduler is as it was before**, and has made `calls` and no
others. -/
theorem Goes.rests {ok : Bool} {calls : List Call}
    (h : Goes cycle listens c x interval delay once r ok calls s)
    (hcycle : ∀ r : Run, r.Forbears ((cycle x).on r).2) (hr : r.timer = none)
    (hx : r.executor = none) :
    s.timer = none ∧ s.executor = none ∧
      s.world.scheduleCalls = r.world.scheduleCalls ++ calls := by
  cases h with
  | stopped _ _ delayed =>
    have hall := delayed.forbears
    exact ⟨hall.timer.trans hr, hall.executor.trans hx,
      hall.calls.trans (scheduleCalls_waiting r delay)⟩
  | @single t _ _ _ delayed noted =>
    have hall := (delayed.forbears.trans (hcycle t)).trans noted.forbears
    exact ⟨hall.timer.trans hr, hall.executor.trans hx,
      hall.calls.trans (scheduleCalls_waiting r delay)⟩
  | @served t u v _ first j results _ _ delayed _ _ begun ticks ended =>
    refine ⟨ended.timer, ended.executor, ?_⟩
    obtain ⟨-, -, hcalls, -⟩ := ticks.forbears
    have hserving : (t.serving x j).world.scheduleCalls =
        t.world.scheduleCalls ++ [.makeTimer, jobCall j, .startTimer, .wait none] := by
      rw [World.scheduleCalls, Run.serving]
      dsimp only
      rw [List.filter_append]
      rfl
    have hclosed : v.closed.world.scheduleCalls = v.world.scheduleCalls ++ [.stopTimer] :=
      World.scheduleCalls_record rfl
    rw [ended.forbears.calls, hclosed, hcalls, begun.forbears.calls, hserving,
      delayed.forbears.calls, scheduleCalls_waiting]
    simp only [List.append_assoc]

/-- Whether there is a job does not depend on `first`, when it is done for the first time. -/
theorem isSome_backupJob? (interval : Duration) (first : DateTime) :
    (backupJob? interval first).isSome =
      (Duration.ofFields? 0 interval.wholeSeconds 0).isSome := by
  rw [backupJob?, Option.isSome_map]

/-- **Behind a delay that is not cut short** all goes well just when one backup is to be made, or
the whole seconds of `interval` are a duration. -/
theorem goes_behind_iff (hcycle : ∀ r : Run, r.Forbears ((cycle x).on r).2)
    (hticks : ∀ before ∈ c.ticks, Peaceful before) (hr : r.timer = none) (hx : r.executor = none)
    (hs : r.world.SparesSchedule) {t : Run} (ht : Delaying listens c delay r false t)
    {first : DateTime} (hfirst : nextTick interval.wholeSeconds t.world.now = .ok first) :
    (∃ ok calls s, (afterDelay cycle listens c x interval once).on t = (.ok ok, s) ∧
        Goes cycle listens c x interval delay once r ok calls s ∧ s.timer = none ∧
        s.executor = none ∧ s.world.scheduleCalls = r.world.scheduleCalls ++ calls) ↔
      once = true ∨ (Duration.ofFields? 0 interval.wholeSeconds 0).isSome = true := by
  have hwhole : ¬(0 < delay.micros ∧ c.IsCutShort listens) := fun h => nomatch ht.cut_iff.2 h
  cases once with
  | true =>
    have hx' : (some x).or t.executor = some x := rfl
    obtain ⟨s, hsafe, hts⟩ := runCycleSafely_on cycle hx'
    have hgoes : Goes cycle listens c x interval delay true r ((cycle x).on t).1.isOk
      (waits delay) s := .single hwhole rfl ht hts
    exact iff_of_true ⟨_, _, s, hsafe, hgoes, hgoes.rests hcycle hr hx⟩ (.inl rfl)
  | false =>
    have htr : t.timer = none := ht.forbears.timer.trans hr
    have hts : t.world.SparesSchedule := ht.forbears.spares hs
    rw [← isSome_backupJob? interval first]
    rcases hjob : backupJob? interval first with _ | j
    · rw [afterDelay_on_half htr hts hfirst hjob]
      refine iff_of_false ?_ (by rintro (h | h) <;> cases h)
      rintro ⟨_, _, _, ⟨⟩, -⟩
    · obtain ⟨results, u, v, s, hu, hticking, hvs, hserve⟩ :=
        serve_on listens hcycle hticks htr hts hfirst hjob
      have hgoes := Goes.served hwhole rfl ht hfirst hjob hu hticking hvs
      exact iff_of_true ⟨_, _, s, hserve, hgoes, hgoes.rests hcycle hr hx⟩ (.inr rfl)

/-- A delay that cannot be waited for, by `Bears`, leaves `run` without an answer. -/
theorem run_of_not_bears (hinterval : microsPerSecond ≤ interval.micros)
    (hs : r.world.SparesSchedule) (hmeanwhile : Peaceful c.meanwhile)
    (h : ¬(0 < delay.micros → c.Bears listens delay)) (ok : Bool) (s : Run) :
    (run cycle listens c x interval delay once).on r ≠ (.ok ok, s) := by
  obtain ⟨hd, hbears⟩ := Classical.not_imp.1 h
  obtain ⟨t, hon, -⟩ := (passDelay_on listens c delay hs hmeanwhile).2 hd hbears
  rw [run_on_error (Duration.wholeSeconds_pos hinterval) hon]
  rintro ⟨⟩

/-- **Where the delay can be waited for** all goes well just when the program is asked to stop in
it, or one backup is to be made, or the whole seconds of `interval` are a duration. -/
theorem goes_of_bears_iff (hcycle : ∀ r : Run, r.Forbears ((cycle x).on r).2)
    (hacts : ∀ act ∈ c.acts, Peaceful act) (hr : r.timer = none) (hx : r.executor = none)
    (hs : r.world.SparesSchedule) (hinterval : microsPerSecond ≤ interval.micros)
    (hbears : 0 < delay.micros → c.Bears listens delay)
    (hnext : ∀ t, (passDelay listens c delay).on r = (.ok false, t) →
      ∃ first, nextTick interval.wholeSeconds t.world.now = .ok first) :
    (∃ ok calls s, (run cycle listens c x interval delay once).on r = (.ok ok, s) ∧
        Goes cycle listens c x interval delay once r ok calls s ∧ s.timer = none ∧
        s.executor = none ∧ s.world.scheduleCalls = r.world.scheduleCalls ++ calls) ↔
      0 < delay.micros ∧ c.IsCutShort listens ∨ once = true ∨
        (Duration.ofFields? 0 interval.wholeSeconds 0).isSome = true := by
  have hpos := Duration.wholeSeconds_pos hinterval
  obtain ⟨hmeanwhile, hticks⟩ := List.forall_mem_cons.1 hacts
  obtain ⟨cut, t, hon, ht⟩ := (passDelay_on (r := r) listens c delay hs hmeanwhile).1 hbears
  have hcut := ht.cut_iff
  cases cut with
  | true =>
    obtain ⟨hd, hshort⟩ := hcut.1 rfl
    have hgoes : Goes cycle listens c x interval delay once r true (waits delay) t :=
      .stopped hd hshort ht
    exact iff_of_true ⟨_, _, t, run_on_cut hpos hon, hgoes, hgoes.rests hcycle hr hx⟩
      (.inl ⟨hd, hshort⟩)
  | false =>
    have hwhole : ¬(0 < delay.micros ∧ c.IsCutShort listens) := fun h => nomatch hcut.2 h
    obtain ⟨first, hfirst⟩ := hnext t hon
    rw [run_on_whole hpos hon, goes_behind_iff hcycle hticks hr hx hs ht hfirst,
      or_iff_right hwhole]

/-- **`run` goes on, whatever becomes of the cycles**, just when the delay can be waited for, if
there is one, and the program is asked to stop within it, or just one backup is to be made, or the
whole seconds of `interval` are a duration.  Otherwise it fails, while it waits or while it sets up
the timer. -/
theorem goes_iff (hcycle : ∀ r : Run, r.Forbears ((cycle x).on r).2)
    (hacts : ∀ act ∈ c.acts, Peaceful act) (hr : r.timer = none) (hx : r.executor = none)
    (hs : r.world.SparesSchedule) (hinterval : microsPerSecond ≤ interval.micros)
    (hnext : ∀ t, (passDelay listens c delay).on r = (.ok false, t) →
      ∃ first, nextTick interval.wholeSeconds t.world.now = .ok first) :
    (∃ ok calls s, (run cycle listens c x interval delay once).on r = (.ok ok, s) ∧
        Goes cycle listens c x interval delay once r ok calls s ∧ s.timer = none ∧
        s.executor = none ∧ s.world.scheduleCalls = r.world.scheduleCalls ++ calls) ↔
      (0 < delay.micros → c.Bears listens delay) ∧
        (0 < delay.micros ∧ c.IsCutShort listens ∨ once = true ∨
          (Duration.ofFields? 0 interval.wholeSeconds 0).isSome = true) := by
  by_cases hbears : 0 < delay.micros → c.Bears listens delay
  · rw [and_iff_right hbears]
    exact goes_of_bears_iff hcycle hacts hr hx hs hinterval hbears hnext
  · refine iff_of_false ?_ fun h => hbears h.1
    rintro ⟨ok, calls, s, hrun, -⟩
    exact run_of_not_bears hinterval hs (hacts _ List.mem_cons_self) hbears ok s hrun

/-- Where there is a `nextTick` in 1970 or later, the interval is not too long for a duration. -/
theorem isSome_ofFields?_of_nextTick {now : Reading} {t : ℚ} {first : DateTime}
    (hpos : 0 < interval.wholeSeconds) (hnow : now.value? = some t) (ht : 0 ≤ t)
    (hfirst : nextTick interval.wholeSeconds now = .ok first) :
    (Duration.ofFields? 0 interval.wholeSeconds 0).isSome = true := by
  obtain ⟨hdated, -⟩ := (nextTick_eq_ok_iff hpos hnow ht).1 hfirst
  have hfloor : 0 ≤ ⌊t⌋ := Int.floor_nonneg.2 ht
  have hle : interval.wholeSeconds ≤ tickAfter interval.wholeSeconds ⌊t⌋ := by
    refine Int.le_of_dvd ?_ (tickAfter_dvd _ _)
    have := (untilTick_bounds interval.wholeSeconds ⌊t⌋ hpos).1
    rw [tickAfter]
    omega
  have hmicros : (0 * 86400 + interval.wholeSeconds) * (microsPerSecond : ℤ) + 0 =
      (⟨interval.wholeSeconds * microsPerSecond⟩ : Duration).micros := by
    rw [zero_mul, zero_add, add_zero]
  rw [Duration.ofFields?, hmicros, Duration.ofMicros?_of_lt]
  · rfl
  · exact mul_pos hpos (by decide)
  · exact lt_of_le_of_lt (mul_le_mul_of_nonneg_right hle (by decide)) hdated

/-- **From 1970 on the delay is all that matters**: `run` goes on just when the delay can be waited
for, or there is none. -/
theorem goes_iff_bears (hcycle : ∀ r : Run, r.Forbears ((cycle x).on r).2)
    (hacts : ∀ act ∈ c.acts, Peaceful act) (hr : r.timer = none) (hx : r.executor = none)
    (hs : r.world.SparesSchedule) (hinterval : microsPerSecond ≤ interval.micros)
    (hnext : ∀ t, (passDelay listens c delay).on r = (.ok false, t) →
      ∃ now first, t.world.now.value? = some now ∧ 0 ≤ now ∧
        nextTick interval.wholeSeconds t.world.now = .ok first) :
    (∃ ok calls s, (run cycle listens c x interval delay once).on r = (.ok ok, s) ∧
        Goes cycle listens c x interval delay once r ok calls s ∧ s.timer = none ∧
        s.executor = none ∧ s.world.scheduleCalls = r.world.scheduleCalls ++ calls) ↔
      (0 < delay.micros → c.Bears listens delay) := by
  have hfirst : ∀ t, (passDelay listens c delay).on r = (.ok false, t) →
      ∃ first, nextTick interval.wholeSeconds t.world.now = .ok first := fun t ht => by
    obtain ⟨-, first, -, -, h⟩ := hnext t ht
    exact ⟨first, h⟩
  by_cases hbears : 0 < delay.micros → c.Bears listens delay
  · refine iff_of_true ((goes_of_bears_iff hcycle hacts hr hx hs hinterval hbears hfirst).2 ?_)
      hbears
    obtain ⟨cut, t, hon, ht⟩ :=
      (passDelay_on listens c delay hs (hacts _ List.mem_cons_self)).1 hbears
    cases cut with
    | true => exact .inl (ht.cut_iff.1 rfl)
    | false =>
      obtain ⟨now, first, hnow, hnonneg, hfirst⟩ := hnext t hon
      exact .inr (.inr (isSome_ofFields?_of_nextTick (Duration.wholeSeconds_pos hinterval) hnow
        hnonneg hfirst))
  · refine iff_of_false ?_ hbears
    rintro ⟨ok, calls, s, hrun, -⟩
    exact run_of_not_bears hinterval hs (hacts _ List.mem_cons_self) hbears ok s hrun

/-! ### A failure that does no harm -/

/-- Two ticks.  In the delay the clock moves on to the next day.  Before the first tick the node
stops to answer, for once. -/
def hiccup : Course where
  longestWait := some longestWait64
  meanwhile := changeWorld (·.change (.now (.whole 1705363205)))
  ticks := [changeWorld (·.change (.fail "info" [some (.redis "gone")])), pure ()]
  ending := .signal "SIGTERM"

theorem peaceful_hiccup : ∀ act ∈ hiccup.acts, Peaceful act := by
  refine List.forall_mem_cons.2 ⟨fun r => ?_, List.forall_mem_cons.2 ⟨fun r => ?_,
    List.forall_mem_singleton.2 fun r => ?_⟩⟩
  · exact ⟨_, Act.on_changeWorld (·.change (.now (.whole 1705363205))) r, rfl, rfl, rfl, id⟩
  · refine ⟨_, Act.on_changeWorld _ r, rfl, rfl, rfl, fun hr c hc e he => ?_⟩
    rcases List.mem_append.1 he with he | he
    · exact hr c hc e he
    · rw [List.mem_singleton.1 he]
      cases c <;> first | (cases hc; done) | simp [Call.name]
  · exact ⟨r, rfl, .refl r⟩

/-- In the course of `hiccup` the first backup fails, the second one does not, and the timer is
stopped once. -/
theorem goes_hiccup :
    (∃ ok calls s,
      (run runCycle true hiccup .ofPrimary ⟨3600000000⟩ ⟨43200000000⟩ false).on {} = (.ok ok, s) ∧
        Goes runCycle true hiccup .ofPrimary ⟨3600000000⟩ ⟨43200000000⟩ false {} ok calls s ∧
        s.timer = none ∧ s.executor = none ∧
        s.world.scheduleCalls = ({} : Run).world.scheduleCalls ++ calls) ∧
    ((run runCycle true hiccup .ofPrimary ⟨3600000000⟩ ⟨43200000000⟩ false).on {}).2.world.calls.map
        (fun | .tick result => toString result | call => call.name) =
      ["wait", "scheduler", "add_job", "start", "wait", "from_url", "info", "false", "info", "true",
        "shutdown"] := by
  have hspares : ({} : Run).world.SparesSchedule := fun _ _ e he => by cases he
  have hjob : (Duration.ofFields? 0 (⟨3600000000⟩ : Duration).wholeSeconds 0).isSome = true := by
    decide +kernel
  have hnext : ∀ t, (passDelay true hiccup ⟨43200000000⟩).on {} = (.ok false, t) →
      ∃ first, nextTick (⟨3600000000⟩ : Duration).wholeSeconds t.world.now = .ok first := by
    intro t ht
    cases ht
    exact ⟨_, rfl⟩
  refine ⟨(goes_iff (forbears_runCycle _) peaceful_hiccup rfl rfl hspares (by decide) hnext).2
    ⟨fun _ => .inr (by decide), .inr (.inr hjob)⟩, by decide +kernel⟩

/-- **A delay that is too long for the system**, by a day: `run` fails while it waits, although
there is a next tick, and nobody asks it to stop. -/
theorem not_goes_longDelay :
    Duration.ofFields? 106752 0 0 = some ⟨9223372800000000⟩ ∧
    (nextTick (⟨3600000000⟩ : Duration).wholeSeconds ({} : Run).world.now).isOk = true ∧
    ∃ s, (run runCycle true { longestWait := some longestWait64 } .ofPrimary ⟨3600000000⟩
        ⟨9223372800000000⟩ false).on {} = (.error (.broken .outOfRange), s) ∧
      s.timer = none ∧ s.world.calls.map Call.name = ["wait"] ∧
      ∀ ok t, (run runCycle true { longestWait := some longestWait64 } .ofPrimary ⟨3600000000⟩
        ⟨9223372800000000⟩ false).on {} ≠ (.ok ok, t) := by
  let c : Course := { longestWait := some longestWait64 }
  have hspares : ({} : Run).world.SparesSchedule := fun _ _ e he => by cases he
  have hlong : ¬c.Bears true ⟨9223372800000000⟩ := by
    rintro (h | h)
    · cases h
    · exact absurd h (by decide)
  obtain ⟨t, hpass, ht⟩ := (passDelay_on (r := {}) true c ⟨9223372800000000⟩ hspares
    fun r => ⟨r, rfl, .refl r⟩).2 (by decide) hlong
  have hpos : 0 < (⟨3600000000⟩ : Duration).wholeSeconds := by decide +kernel
  have hon : (run runCycle true c .ofPrimary ⟨3600000000⟩ ⟨9223372800000000⟩ false).on {} =
      (.error (.broken .outOfRange), t) := run_on_error hpos hpass
  refine ⟨by decide +kernel, by decide +kernel, t, hon, ht.timer, ?_, ?_⟩
  · rw [ht.world]
    rfl
  · intro ok s hs
    cases hon.symm.trans hs

end Schedule

end DumpKeeper
