import DumpKeeper.Proofs.Modest
import DumpKeeper.Proofs.Timer

/-!
# What leaves the timer alone

Backup cycles are made by the timer, but they have no hold on it: whatever becomes of a cycle, the
timer stays as it is, and nothing is asked of it.

* `Run.Besides` — between two runs nothing has happened to the timer.
* `Act.IsBeside` — an act that does nothing to the timer, whether it fails or not.  Modest acts are
  such acts unless they call it.
* `Schedule.isBeside_runCycleSafely` — so are cycles, whether their failures are noted or not.
-/

set_option autoImplicit false

namespace DumpKeeper

/-! ## Runs -/

/-- Between `r` and `s` nothing has happened to the timer. -/
structure Run.Besides (r s : Run) : Prop where
  /-- The timer is the same. -/
  timer : s.timer = r.timer
  /-- It makes the backups of the same executor. -/
  executor : s.executor = r.executor
  /-- Nothing was asked of it. -/
  calls : s.world.timerCalls = r.world.timerCalls

namespace Run

variable {r s t : Run}

theorem Besides.refl (r : Run) : r.Besides r := ⟨rfl, rfl, rfl⟩

theorem Besides.trans (h : r.Besides s) (h' : s.Besides t) : r.Besides t :=
  ⟨h'.timer.trans h.timer, h'.executor.trans h.executor, h'.calls.trans h.calls⟩

theorem Besides.isRunning (h : r.Besides s) : Schedule.isRunning s = Schedule.isRunning r := by
  rw [Schedule.isRunning, h.timer, Schedule.isRunning]

theorem Besides.jobs (h : r.Besides s) : Schedule.jobs s = Schedule.jobs r := by
  rw [Schedule.jobs, h.timer, Schedule.jobs]

/-- Entries of the journal do nothing to the timer: `Run.Noted` is stronger than `Run.Besides`. -/
theorem Noted.besides (h : r.Noted s) : r.Besides s :=
  ⟨h.timer, h.executor, by rw [h.world]⟩

end Run

/-! ## Acts -/

namespace Act

variable {α : Type}

/-- Whether `t` fails or not, it does nothing to the timer: every run has `Run.Besides` with the one
that `t` leaves. -/
def IsBeside (t : Act α) : Prop := ∀ r : Run, r.Besides (t.on r).2

/-- The modest act `t` does nothing to the timer if the calls that it makes are none of the
timer's. -/
theorem IsModest.isBeside {K : Call → Bool} {dump : FilePath} {t : Act α} (h : t.IsModest K dump)
    (hK : ∀ c, K c = true → c.isTimers = false) : t.IsBeside := fun r => by
  have hw := h.within r
  exact ⟨hw.timer, hw.executor, hw.calls.filter_eq hK⟩

end Act

/-! ## Cycles -/

/-- **A cycle does nothing to the timer**, whichever executor it is made for. -/
theorem isBeside_runCycle (x : Executor) : (runCycle x).IsBeside :=
  (isModest_runCycle x).isBeside fun c hc => by cases c <;> first | rfl | cases hc

/-- **Nor does a cycle whose failure is noted** by `runCycleSafely`. -/
theorem Schedule.isBeside_runCycleSafely (given : Option Executor) :
    (runCycleSafely runCycle given).IsBeside := fun r => by
  rcases hx : given.or r.executor with _ | x
  · rw [runCycleSafely, Act.on_get_bind, hx]
    exact .refl r
  · obtain ⟨s, hon, hnoted⟩ := runCycleSafely_on runCycle hx
    rw [hon]
    exact (isBeside_runCycle x r).trans hnoted.besides

end DumpKeeper
