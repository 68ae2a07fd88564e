import DumpKeeper.Clock
import DumpKeeper.Config.Error

/-!
# Ticks

Backups are made at the multiples of an interval, counted from the beginning of 1970.  When the
program was started makes no difference to the times at which it wakes.

* `untilTick` — how long it is to the next tick.
* `tickAfter` — the next tick, in seconds.
* `untilTick_bounds`, `tickAfter_dvd` — the next tick is at most an interval away and lies on a
  multiple of it.
* `secondsUntilTick`, `nextTick` — the same for a reading of the clock and an interval of any sign.
-/

set_option autoImplicit false

namespace DumpKeeper

/-- The seconds from `now` to the next multiple of `interval`. -/
def untilTick (interval now : Int) : Int :=
  interval - now % interval

/-- The next multiple of `interval` after `now`. -/
def tickAfter (interval now : Int) : Int :=
  now + untilTick interval now

/-- The next tick lies ahead of `now`, by no more than `interval`. -/
theorem untilTick_bounds (interval now : Int) (h : 0 < interval) :
    1 ≤ untilTick interval now ∧ untilTick interval now ≤ interval := by
  have h₀ := Int.emod_nonneg now (show interval ≠ 0 by omega)
  have h₁ := Int.emod_lt_of_pos now h
  simp only [untilTick]
  omega

/-- The next tick is a multiple of `interval`. -/
theorem tickAfter_dvd (interval now : Int) : interval ∣ tickAfter interval now := by
  have h := Int.emod_add_mul_ediv now interval
  refine ⟨1 + now / interval, ?_⟩
  simp only [tickAfter, untilTick, Int.mul_add, Int.mul_one]
  omega

/-- Why there is no next tick. -/
inductive TickFault where
  /-- The interval is not positive. -/
  | idle (interval : Int)
  | time (f : TimeFault)
  deriving DecidableEq, Repr

/-- An interval of `seconds`, which is not positive, as a reason to refuse it. -/
def idleInterval (seconds : Int) : ConfigError :=
  .idleInterval (toString seconds ++ "s")

/-- The seconds from the reading `now` of the clock to the next tick of `interval`. -/
def secondsUntilTick (interval : Int) (now : Reading) : Except TickFault Int :=
  if interval ≤ 0 then .error (.idle interval)
  else (now.wholeSeconds.map (untilTick interval)).mapError .time

/-- The point in time of the next tick of `interval` after the reading `now` of the clock. -/
def nextTick (interval : Int) (now : Reading) : Except TickFault DateTime := do
  let wait ← secondsUntilTick interval now
  let whole ← now.wholeSeconds.mapError .time
  (DateTime.ofUnixSeconds (whole + wait)).mapError .time

end DumpKeeper
