import DumpKeeper.Proofs.Lifecycle

/-!
# Boundaries of an interval

The multiples of an interval divide time into equal stretches, and a tick comes at the end of each
of them.  From anywhere in a stretch, its first moment included, the next tick is its end; the end
itself belongs to the stretch behind it.  So no boundary is passed over and none is met twice.

* `Reading.Says` — a clock says a time since 1970.
* `boundariesAhead` — the boundaries that lie ahead of a time, and how the least of them moves:
  `isLeast_boundary`, `isLeast_of_lt_boundary`, `isLeast_at_boundary`.
* `TicksAtBoundaries` — how the ticks of an interval go with its boundaries.
* `ticksAtBoundaries` — the ticks of every positive interval do, and any other interval is refused.
-/

set_option autoImplicit false

namespace DumpKeeper

variable {interval b w : ℤ} {now later : Reading} {t u : ℚ}

/-! ## Boundaries -/

/-- The clock `now` says the time `t` since 1970, in whole seconds or with a fraction. -/
def Reading.Says (now : Reading) (t : ℚ) : Prop := now.value? = some t ∧ 0 ≤ t

/-- The multiples of `interval` that lie ahead of `t`. -/
def boundariesAhead (interval : ℤ) (t : ℚ) : Set ℤ := {k | interval ∣ k ∧ t < k}

theorem boundariesAhead_anti (interval : ℤ) (h : t ≤ u) :
    boundariesAhead interval u ⊆ boundariesAhead interval t :=
  fun _ hk => ⟨hk.1, h.trans_lt hk.2⟩

/-- A fraction of a second of `t` makes no difference to the boundary that comes next. -/
theorem isLeast_boundary (h : 0 < interval) (t : ℚ) :
    IsLeast (boundariesAhead interval t) (tickAfter interval ⌊t⌋) := by
  have hfloor : boundariesAhead interval t = {k | interval ∣ k ∧ ⌊t⌋ < k} :=
    Set.ext fun k => and_congr_right fun _ => Int.floor_lt.symm
  rw [hfloor]
  exact isLeast_tickAfter h ⌊t⌋

/-- Until the boundary `b` is met, it comes next. -/
theorem isLeast_of_lt_boundary (hb : IsLeast (boundariesAhead interval t) b) (h : t ≤ u)
    (hu : u < b) : IsLeast (boundariesAhead interval u) b :=
  ⟨⟨hb.1.1, hu⟩, fun _ hk => hb.2 (boundariesAhead_anti interval h hk)⟩

/-- Behind the boundary `b` comes the one that is an `interval` later. -/
theorem isLeast_at_boundary (h : 0 < interval) (hb : interval ∣ b) :
    IsLeast (boundariesAhead interval b) (b + interval) := by
  refine ⟨⟨dvd_add_self_right.2 hb, by exact_mod_cast lt_add_of_pos_right b h⟩, ?_⟩
  rintro k ⟨hk, hlt⟩
  have hahead : 0 < k - b := sub_pos.2 (by exact_mod_cast hlt)
  have hle := Int.le_of_dvd hahead (dvd_sub hk hb)
  omega

/-! ## Ticks -/

/-- The point in time `n` seconds after the beginning of 1970. -/
def DateTime.atUnix (n : ℤ) : DateTime := ⟨unixEpoch + n * microsPerSecond, some 0⟩

/-- **How the ticks of `interval` go with its boundaries.**  A boundary is written as `⌊t⌋ + w`: the
whole seconds of the time `t`, and the wait from then on. -/
structure TicksAtBoundaries (interval : ℤ) : Prop where
  /-- The wait is a second at least and an interval at most, and it ends at the boundary that comes
  next. -/
  wait : ∀ {now : Reading} {t : ℚ}, now.Says t → ∃ w, secondsUntilTick interval now = .ok w ∧
    1 ≤ w ∧ w ≤ interval ∧ IsLeast (boundariesAhead interval t) (⌊t⌋ + w)
  /-- The tick is at the end of the wait, as long as a date has its year. -/
  tick : ∀ {now : Reading} {t : ℚ} {w : ℤ}, now.Says t → secondsUntilTick interval now = .ok w →
    (⌊t⌋ + w) * microsPerSecond < datedMicros → nextTick interval now = .ok (.atUnix (⌊t⌋ + w))
  /-- As time goes on, the next tick does not go back. -/
  monotone : ∀ {now later : Reading} {t u : ℚ} {d : DateTime}, now.Says t → later.Says u →
    t ≤ u → nextTick interval later = .ok d →
      ∃ c, nextTick interval now = .ok c ∧ c.utcWall ≤ d.utcWall
  /-- The next tick stays the same until its boundary is met. -/
  steady : ∀ {now later : Reading} {t u : ℚ} {w : ℤ}, now.Says t → later.Says u →
    secondsUntilTick interval now = .ok w → t ≤ u → u < (⌊t⌋ + w : ℤ) →
      nextTick interval later = nextTick interval now
  /-- At the boundary, the next tick is a whole interval ahead. -/
  onward : ∀ {now later : Reading} {t : ℚ} {w : ℤ}, now.Says t →
    secondsUntilTick interval now = .ok w → later.Says (⌊t⌋ + w : ℤ) →
      secondsUntilTick interval later = .ok interval ∧
      ((⌊t⌋ + w + interval) * microsPerSecond < datedMicros →
        nextTick interval later = .ok (.atUnix (⌊t⌋ + w + interval)))

theorem secondsUntilTick_eq (h : 0 < interval) (hnow : now.Says t) :
    secondsUntilTick interval now = .ok (untilTick interval ⌊t⌋) := by
  rw [secondsUntilTick, if_neg (by omega), Reading.wholeSeconds_eq_floor hnow.1 hnow.2]
  rfl

/-- The boundary that comes next is where the wait `w` ends. -/
theorem boundary_eq (h : 0 < interval) (hnow : now.Says t)
    (hw : secondsUntilTick interval now = .ok w) : ⌊t⌋ + w = tickAfter interval ⌊t⌋ := by
  rw [secondsUntilTick_eq h hnow] at hw
  rw [← Except.ok.inj hw, tickAfter]

theorem nextTick_eq_atUnix (h : 0 < interval) (hnow : now.Says t)
    (hb : IsLeast (boundariesAhead interval t) b) (hdated : b * microsPerSecond < datedMicros) :
    nextTick interval now = .ok (.atUnix b) := by
  obtain rfl := (isLeast_boundary h t).unique hb
  exact (nextTick_eq_ok_iff h hnow.1 hnow.2).2 ⟨hdated, rfl⟩

/-- The readings `now` and `later` with the same boundary ahead have the same next tick, or none for
the same reason. -/
theorem nextTick_congr (h : 0 < interval) (hnow : now.Says t) (hlater : later.Says u)
    (hb : tickAfter interval ⌊u⌋ = tickAfter interval ⌊t⌋) :
    nextTick interval later = nextTick interval now := by
  have hticks : ∀ {r : Reading} {s : ℚ}, r.Says s → nextTick interval r =
      (DateTime.ofUnixSeconds (tickAfter interval ⌊s⌋)).mapError .time := by
    intro r s hr
    rw [nextTick, secondsUntilTick_eq h hr, Reading.wholeSeconds_eq_floor hr.1 hr.2]
    rfl
  rw [hticks hnow, hticks hlater, hb]

theorem nextTick_mono (h : 0 < interval) (hnow : now.Says t) (hlater : later.Says u) (htu : t ≤ u)
    {d : DateTime} (hd : nextTick interval later = .ok d) :
    ∃ c, nextTick interval now = .ok c ∧ c.utcWall ≤ d.utcWall := by
  obtain ⟨hdated, rfl⟩ := (nextTick_eq_ok_iff h hlater.1 hlater.2).1 hd
  have hle : tickAfter interval ⌊t⌋ ≤ tickAfter interval ⌊u⌋ :=
    (isLeast_boundary h u).mono (isLeast_boundary h t) (boundariesAhead_anti interval htu)
  have hmicros : tickAfter interval ⌊t⌋ * (microsPerSecond : ℤ) ≤
      tickAfter interval ⌊u⌋ * microsPerSecond := mul_le_mul_of_nonneg_right hle (by decide)
  refine ⟨_, (nextTick_eq_ok_iff h hnow.1 hnow.2).2 ⟨hmicros.trans_lt hdated, rfl⟩, ?_⟩
  simp only [DateTime.utcWall, Option.getD_some]
  omega

theorem TicksAtBoundaries.of_pos (h : 0 < interval) : TicksAtBoundaries interval where
  wait := by
    intro now t hnow
    obtain ⟨hone, hinterval⟩ := untilTick_bounds interval ⌊t⌋ h
    exact ⟨_, secondsUntilTick_eq h hnow, hone, hinterval, isLeast_boundary h t⟩
  tick := by
    intro now t w hnow hw hdated
    rw [boundary_eq h hnow hw] at hdated ⊢
    exact nextTick_eq_atUnix h hnow (isLeast_boundary h t) hdated
  monotone hnow hlater htu hd := nextTick_mono h hnow hlater htu hd
  steady := by
    intro now later t u w hnow hlater hw htu hu
    rw [boundary_eq h hnow hw] at hu
    have hb := isLeast_of_lt_boundary (isLeast_boundary h t) htu hu
    exact nextTick_congr h hnow hlater ((isLeast_boundary h u).unique hb)
  onward := by
    intro now later t w hnow hw hlater
    rw [boundary_eq h hnow hw] at hlater ⊢
    have hb := isLeast_at_boundary h (tickAfter_dvd interval ⌊t⌋)
    have hnext := boundary_eq h hlater (secondsUntilTick_eq h hlater)
    rw [(isLeast_boundary h _).unique hb, Int.floor_intCast] at hnext
    refine ⟨?_, nextTick_eq_atUnix h hlater hb⟩
    rw [secondsUntilTick_eq h hlater, Int.floor_intCast, add_left_cancel hnext]

/-- **The next tick is the next boundary** of `interval`, if that is positive.  One that is not
positive is refused by `secondsUntilTick` and `nextTick`, whatever the clock says. -/
theorem ticksAtBoundaries (interval : ℤ) :
    (0 < interval → TicksAtBoundaries interval) ∧
      (interval ≤ 0 → ∀ now,
        (secondsUntilTick interval now).mapError Schedule.ofTickFault =
            .error (.config (idleInterval interval)) ∧
          (nextTick interval now).mapError Schedule.ofTickFault =
            .error (.config (idleInterval interval))) := by
  refine ⟨TicksAtBoundaries.of_pos, fun h now => ⟨?_, ?_⟩⟩
  · rw [secondsUntilTick, if_pos h]
    rfl
  · rw [nextTick_of_nonpos h]
    rfl

/-- The reading 7230.5 is half a second past 2:00:30 on the first day of 1970. -/
theorem says_halfPast : (Reading.fractional 7230.5).Says (14461 / 2) := by
  have hfinite : (7230.5 : Float).isFinite = true := by decide +kernel
  have hparts : Binary64.parts 7230.5 = ⟨false, 7950018824634368, -40⟩ := by decide +kernel
  refine ⟨?_, by norm_num⟩
  rw [Reading.value?, if_pos hfinite, hparts, Binary64.Parts.value]
  norm_num

/-- Ticks every hour: half a second past 2:00:30 `nextTick` is at three o'clock, and so it is a
second before three.  At three it is the one at four. -/
theorem ticks_hourly :
    secondsUntilTick 3600 (.fractional 7230.5) = .ok 3570 ∧
      nextTick 3600 (.fractional 7230.5) = .ok (.atUnix 10800) ∧
      nextTick 3600 (.whole 10799) = .ok (.atUnix 10800) ∧
      nextTick 3600 (.whole 10800) = .ok (.atUnix 14400) ∧
      (nextTick 0 (.whole 10800)).mapError Schedule.ofTickFault =
        .error (.config (idleInterval 0)) := by
  have hticks := (ticksAtBoundaries 3600).1 (by decide)
  have hfloor : ⌊(14461 / 2 : ℚ)⌋ = 7230 := by norm_num
  have hw : secondsUntilTick 3600 (.fractional 7230.5) = .ok 3570 := by
    rw [secondsUntilTick_eq (by decide) says_halfPast, hfloor]
    rfl
  have hfirst : nextTick 3600 (.fractional 7230.5) = .ok (.atUnix 10800) := by
    have htick := hticks.tick says_halfPast hw (by rw [hfloor]; decide)
    rw [hfloor] at htick
    exact htick
  have hbefore : (Reading.whole 10799).Says 10799 := ⟨rfl, by norm_num⟩
  have hthree : (Reading.whole 10800).Says (⌊(14461 / 2 : ℚ)⌋ + 3570 : ℤ) := by
    rw [hfloor]
    exact ⟨rfl, by norm_num⟩
  refine ⟨hw, hfirst, ?_, ?_, ((ticksAtBoundaries 0).2 le_rfl _).2⟩
  · rw [hticks.steady says_halfPast hbefore hw (by norm_num) (by rw [hfloor]; norm_num), hfirst]
  · have honward := (hticks.onward says_halfPast hw hthree).2 (by rw [hfloor]; decide)
    rw [hfloor] at honward
    exact honward

end DumpKeeper
