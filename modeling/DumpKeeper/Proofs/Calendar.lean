import DumpKeeper.DateTime

/-!
# Days, dates and seconds

A date is read off the number of a day, and the day can be told from the date again; so no two days
have the same date, and no two seconds the same date and time of the day.

* `Date.toDay_ofDay` — a date names the day that it was read off.
* `DateTime.wall_eq_of_fields` — what a clock shows tells the second.
* `DateTime.IsDated`, `DateTime.utcSecond`, `DateTime.atSecond` — instants that the UTC clock can
  show, their seconds, and the clock at these seconds.
* `DateTime.toUtcSeconds?_eq_some_iff` — an instant on the UTC clock, without microseconds.
-/

set_option autoImplicit false

namespace DumpKeeper

/-! ## Dates -/

namespace Date

/-- The months of `lengths` before the one that is found, and the days before the one in it, are all
`n` days. -/
theorem inMonths_spec (m : Nat) (lengths : List Nat) (n : Nat) :
    m ≤ (inMonths m lengths n).1 ∧ 1 ≤ (inMonths m lengths n).2 ∧
      (lengths.take ((inMonths m lengths n).1 - m)).foldr (· + ·) 0 +
        ((inMonths m lengths n).2 - 1) = n := by
  fun_induction inMonths m lengths n with
  | case1 m n => simp
  | case2 m k n => simp
  | case3 m k l rest n h => simp
  | case4 m k l rest n h ih =>
    obtain ⟨hm, hd, hsum⟩ := ih
    have hstep : (inMonths (m + 1) (l :: rest) (n - k)).1 - m =
        (inMonths (m + 1) (l :: rest) (n - k)).1 - (m + 1) + 1 := by omega
    refine ⟨by omega, hd, ?_⟩
    rw [hstep, List.take_succ_cons, List.foldr_cons]
    omega

/-- **A date names the day that it was read off**: `toDay` undoes `ofDay`. -/
theorem toDay_ofDay (n : Nat) : (ofDay n).toDay = n := by
  have hyear := (yearOf_bounds n).1
  obtain ⟨-, -, hsum⟩ := inMonths_spec 1 (monthLengths (yearOf n)) (n - daysBefore (yearOf n))
  simp only [ofDay, toDay]
  omega

theorem ofDay_injective {m n : Nat} (h : ofDay m = ofDay n) : m = n := by
  rw [← toDay_ofDay m, h, toDay_ofDay]

end Date

/-! ## Clocks -/

theorem cast_microsPerSecond : (microsPerSecond : Int) = 1000000 := rfl

theorem cast_microsPerDay : (microsPerDay : Int) = 86400000000 := rfl

namespace DateTime

/-- What the clock `t` shows, put together again from its hands. -/
theorem wall_eq_fields {t : DateTime} (h : 0 ≤ t.wall) :
    t.wall = (t.wall / microsPerDay).toNat * microsPerDay + t.hour * 3600000000 +
      t.minute * 60000000 + t.second * microsPerSecond + t.wall % microsPerSecond := by
  simp only [hour, minute, second, cast_microsPerSecond, cast_microsPerDay]
  omega

/-- **Date and time of the day tell the second**, so that `s.wall` and `t.wall` are the same if
their microseconds are, too. -/
theorem wall_eq_of_fields {s t : DateTime} (hs : 0 ≤ s.wall) (ht : 0 ≤ t.wall)
    (hmicros : s.wall % microsPerSecond = t.wall % microsPerSecond) (hdate : s.date = t.date)
    (hhour : s.hour = t.hour) (hminute : s.minute = t.minute) (hsecond : s.second = t.second) :
    s.wall = t.wall := by
  rw [wall_eq_fields hs, wall_eq_fields ht, Date.ofDay_injective hdate, hhour, hminute, hsecond,
    hmicros]

/-! ## Seconds of UTC -/

/-- The UTC clock can show the instant `t`. -/
def IsDated (t : DateTime) : Prop := 0 ≤ t.utcWall ∧ t.utcWall < wallLimit

instance (t : DateTime) : Decidable t.IsDated :=
  inferInstanceAs (Decidable (0 ≤ t.utcWall ∧ t.utcWall < wallLimit))

/-- The second of UTC that the instant `t` falls in, counted from the beginning of year one. -/
def utcSecond (t : DateTime) : Int := t.utcWall / microsPerSecond

/-- The UTC clock at the beginning of the second that `t` falls in. -/
def atSecond (t : DateTime) : DateTime := ⟨t.utcSecond * microsPerSecond, some 0⟩

theorem wall_atSecond (t : DateTime) : t.atSecond.wall = t.utcSecond * microsPerSecond := rfl

theorem atSecond_eq (t : DateTime) :
    t.atSecond = ⟨t.utcWall - t.utcWall % microsPerSecond, some 0⟩ := by
  rw [atSecond, mk.injEq, and_iff_left rfl, utcSecond, cast_microsPerSecond]
  omega

/-- The instant `t` on the UTC clock without microseconds is `t.atSecond`, if that clock can show
it. -/
theorem toUtcSeconds?_eq_some_iff {t u : DateTime} :
    t.toUtcSeconds? = some u ↔ t.IsDated ∧ u = t.atSecond := by
  rw [toUtcSeconds?, ofWall?, IsDated]
  split
  · rename_i h
    rw [Option.map_some, Option.some.injEq, atSecond_eq, eq_comm]
    exact (and_iff_right h).symm
  · rename_i h
    exact iff_of_false (by simp) fun hu => h hu.1

theorem atSecond_eq_iff {s t : DateTime} : s.atSecond = t.atSecond ↔ s.utcSecond = t.utcSecond := by
  rw [atSecond, atSecond, mk.injEq, and_iff_left rfl]
  exact Int.mul_eq_mul_right_iff (by decide)

theorem wall_atSecond_nonneg {t : DateTime} (h : t.IsDated) : 0 ≤ t.atSecond.wall := by
  have hwall := h.1
  rw [wall_atSecond, utcSecond, cast_microsPerSecond]
  omega

theorem wall_atSecond_emod (t : DateTime) : t.atSecond.wall % microsPerSecond = 0 := by
  rw [wall_atSecond, cast_microsPerSecond]
  omega

end DateTime

end DumpKeeper
