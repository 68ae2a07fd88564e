import DumpKeeper.Proofs.Timer
import DumpKeeper.Proofs.Validity
import Mathlib.Data.Rat.Floor
import Mathlib.Order.Bounds.Basic
import Mathlib.Tactic.Linarith

/-!
# Which intervals are kept to

Backups are made at the multiples of an interval.  The timer counts in whole seconds, though, and it
knows the years up to 9999 only.  Any interval of a second or more is accepted, and this file tells
which of them the timer keeps to.

* `Reading.value?` — what a clock says, as a rational number.
* `isLeast_tickAfter`, `isLeast_tickAfter_mul` — the next tick is the least multiple that lies
  ahead.
* `nextTick_eq_ok_iff` — there is a next tick as long as a date has its year.
* `Job.Follows` — a job runs at the multiples of an interval, beginning with the next one.
* `Schedule.setUp_follows_iff` — setting up makes such a job just when the interval is one of whole
  seconds, and a multiple of it comes before the year 10000.
* `Config.followed_iff` — the same for the interval of a configuration.
-/

set_option autoImplicit false

namespace DumpKeeper

/-! ## Readings -/

/-- The value of a finite floating-point number with the parts `p`. -/
def Binary64.Parts.value (p : Parts) : ℚ :=
  (if p.negative then -1 else 1) * (p.mantissa * 2 ^ p.exponent)

/-- What a clock says, unless it is no number or infinite. -/
def Reading.value? : Reading → Option ℚ
  | .whole n => some n
  | .fractional x => if x.isFinite then some (Binary64.parts x).value else none

/-- The magnitude `m * 2 ^ e` of a number, cut to a whole one. -/
theorem Binary64.floor_magnitude (m : ℕ) (e : ℤ) :
    ⌊(m * 2 ^ e : ℚ)⌋ =
      ((if 0 ≤ e then m * Nat.pow 2 e.toNat else m / Nat.pow 2 (-e).toNat : ℕ) : ℤ) := by
  split
  · rename_i he
    obtain ⟨k, rfl⟩ := Int.eq_ofNat_of_zero_le he
    have hcast : (m * 2 ^ (k : ℤ) : ℚ) = ((m * 2 ^ k : ℕ) : ℚ) := by
      rw [zpow_natCast]
      push_cast
      rfl
    rw [hcast, Int.floor_natCast]
    rfl
  · rename_i he
    obtain ⟨k, rfl⟩ : ∃ k : ℕ, e = -(k : ℤ) := ⟨(-e).toNat, by omega⟩
    have hcast : (m * 2 ^ (-(k : ℤ)) : ℚ) = (m : ℚ) / ((2 ^ k : ℕ) : ℚ) := by
      rw [zpow_neg, zpow_natCast, ← div_eq_mul_inv]
      push_cast
      rfl
    rw [hcast, Rat.floor_natCast_div_natCast, neg_neg, Int.toNat_natCast]
    rfl

/-- Above zero, to `truncate` is to round down. -/
theorem Binary64.Parts.truncate_eq_floor {p : Parts} (h : 0 ≤ p.value) :
    p.truncate = ⌊p.value⌋ := by
  rw [value] at h ⊢
  rw [truncate]
  cases hneg : p.negative
  · rw [if_neg Bool.false_ne_true, if_neg Bool.false_ne_true, one_mul, floor_magnitude]
  · rw [hneg] at h
    have hpow : (0 : ℚ) < 2 ^ p.exponent := zpow_pos two_pos _
    have hm : p.mantissa = 0 := by
      by_contra hne
      have hpos : (0 : ℚ) < p.mantissa * 2 ^ p.exponent :=
        mul_pos (by exact_mod_cast Nat.pos_of_ne_zero hne) hpow
      simp only [if_true] at h
      linarith
    simp [hm]

theorem Reading.wholeSeconds_eq_floor {now : Reading} {t : ℚ} (h : now.value? = some t)
    (ht : 0 ≤ t) : now.wholeSeconds = .ok ⌊t⌋ := by
  cases now with
  | whole n =>
    cases h
    rw [wholeSeconds, Int.floor_intCast]
  | fractional x =>
    rw [value?, Option.ite_none_right_eq_some] at h
    obtain ⟨hx, h⟩ := h
    cases h
    rw [wholeSeconds, Binary64.truncate?, if_pos hx, Binary64.Parts.truncate_eq_floor ht]

/-! ## Ticks -/

/-- **The next tick**, `tickAfter`, is the least multiple of `interval` that lies ahead of `now`. -/
theorem isLeast_tickAfter {interval : ℤ} (h : 0 < interval) (now : ℤ) :
    IsLeast {k | interval ∣ k ∧ now < k} (tickAfter interval now) := by
  have hbounds := untilTick_bounds interval now h
  refine ⟨⟨tickAfter_dvd interval now, ?_⟩, ?_⟩
  · rw [tickAfter]
    omega
  · rintro k ⟨hk, hnow⟩
    obtain ⟨d, hd⟩ : interval ∣ k - tickAfter interval now :=
      dvd_sub hk (tickAfter_dvd interval now)
    have hd₀ : 0 ≤ d := by
      by_contra hneg
      have hle : interval * d ≤ interval * -1 := mul_le_mul_of_nonneg_left (by omega) h.le
      rw [tickAfter] at hd
      omega
    have hnonneg : 0 ≤ interval * d := mul_nonneg h.le hd₀
    omega

/-- The next tick, `tickAfter`, in microseconds, as seen from any reading `t` within its second. -/
theorem isLeast_tickAfter_mul {seconds : ℤ} (h : 0 < seconds) (t : ℚ) :
    IsLeast {k : ℤ | seconds * microsPerSecond ∣ k ∧ t * microsPerSecond < k}
      (tickAfter seconds ⌊t⌋ * microsPerSecond) := by
  obtain ⟨⟨hdvd, hlt⟩, hleast⟩ := isLeast_tickAfter h ⌊t⌋
  have hmicros : (0 : ℚ) < microsPerSecond := by norm_num
  refine ⟨⟨mul_dvd_mul_right hdvd _, ?_⟩, ?_⟩
  · have hcast : t < (tickAfter seconds ⌊t⌋ : ℚ) := Int.floor_lt.1 hlt
    push_cast
    exact mul_lt_mul_of_pos_right hcast hmicros
  · rintro _ ⟨⟨d, rfl⟩, hk⟩
    have hahead : t < (seconds * d : ℤ) := by
      refine lt_of_mul_lt_mul_right (hk.trans_eq ?_) hmicros.le
      push_cast
      ring
    have hle : tickAfter seconds ⌊t⌋ ≤ seconds * d :=
      hleast ⟨dvd_mul_right _ _, Int.floor_lt.2 hahead⟩
    calc tickAfter seconds ⌊t⌋ * (microsPerSecond : ℤ)
        ≤ seconds * d * microsPerSecond := mul_le_mul_of_nonneg_right hle (by norm_num)
      _ = seconds * microsPerSecond * d := by ring

/-- The microseconds of the years from 1970 to 9999. -/
def datedMicros : ℤ := DateTime.wallLimit - DateTime.unixEpoch

/-- A count `n` of seconds is a point in time until the year 9999 ends. -/
theorem DateTime.ofUnixSeconds_eq_ok_iff {n : ℤ} (h : 0 ≤ n) {d : DateTime} :
    DateTime.ofUnixSeconds n = .ok d ↔
      n * microsPerSecond < datedMicros ∧ d = ⟨unixEpoch + n * microsPerSecond, some 0⟩ := by
  have hbound : ((Nat.pow 2 63 : ℕ) : ℤ) = 9223372036854775808 := rfl
  have hmicros : (microsPerSecond : ℤ) = 1000000 := rfl
  have hwall : unixEpoch + (n * microsPerSecond + 0) = unixEpoch + n * microsPerSecond := by
    rw [add_zero]
  rw [ofUnixSeconds, ofUnix, Int.zero_ediv, Int.zero_emod, add_zero, ofUnixMicros?, hwall,
    datedMicros]
  by_cases hlt : n * microsPerSecond < wallLimit - unixEpoch
  · have hepoch : 0 ≤ unixEpoch := by decide
    have hlimit : wallLimit - unixEpoch = 253402300800000000 := rfl
    have hn : n < 253402300800 := by
      rw [hlimit, hmicros] at hlt
      omega
    have hnonneg : 0 ≤ n * (microsPerSecond : ℤ) := mul_nonneg h (by decide)
    have hsome : ofWall? (unixEpoch + n * microsPerSecond) (some 0) =
        some ⟨unixEpoch + n * microsPerSecond, some 0⟩ := if_pos ⟨by omega, by omega⟩
    rw [if_neg (by omega), if_neg (by simp only [yearCountBounds]; omega), hsome]
    exact ⟨fun hd => ⟨hlt, (Except.ok.inj hd).symm⟩, fun hd => congrArg Except.ok hd.2.symm⟩
  · have hnone : ofWall? (unixEpoch + n * microsPerSecond) (some 0) = none :=
      if_neg fun hd => hlt (by omega)
    rw [hnone]
    refine iff_of_false ?_ fun hd => hlt hd.1
    split
    · exact nofun
    split
    · exact nofun
    · exact nofun

/-- **There is a next tick** as long as a date has its year, and `nextTick` gives it. -/
theorem nextTick_eq_ok_iff {seconds : ℤ} (h : 0 < seconds) {now : Reading} {t : ℚ}
    (hnow : now.value? = some t) (ht : 0 ≤ t) {first : DateTime} :
    nextTick seconds now = .ok first ↔
      tickAfter seconds ⌊t⌋ * microsPerSecond < datedMicros ∧
        first = ⟨DateTime.unixEpoch + tickAfter seconds ⌊t⌋ * microsPerSecond, some 0⟩ := by
  have hpos : 0 ≤ tickAfter seconds ⌊t⌋ := by
    have hfloor : 0 ≤ ⌊t⌋ := Int.floor_nonneg.2 ht
    have hlt := (isLeast_tickAfter h ⌊t⌋).1.2
    omega
  rw [← DateTime.ofUnixSeconds_eq_ok_iff hpos, nextTick, secondsUntilTick, if_neg (by omega),
    Reading.wholeSeconds_eq_floor hnow ht]
  show (DateTime.ofUnixSeconds (tickAfter seconds ⌊t⌋)).mapError TickFault.time = _ ↔ _
  rcases DateTime.ofUnixSeconds (tickAfter seconds ⌊t⌋) with f | d
  · exact iff_of_false (by rintro ⟨⟩) (by rintro ⟨⟩)
  · exact ⟨fun hd => congrArg Except.ok (Except.ok.inj hd),
      fun hd => congrArg Except.ok (Except.ok.inj hd)⟩

/-! ## Jobs -/

/-- The time at which the job `j` runs after `n` intervals, in microseconds since 1970. -/
def Job.wake (j : Job) (n : ℕ) : ℤ := j.first.wall - DateTime.unixEpoch + n * j.interval.micros

/-- **A job runs at the multiples of an interval**, beginning with the least one that lies ahead of
`t`. -/
structure Job.Follows (j : Job) (interval : Duration) (t : ℚ) : Prop where
  /-- The job is the one that makes backups. -/
  id : j.id = Schedule.jobId
  /-- It runs once in an interval. -/
  period : j.interval = interval
  /-- Its first time is told in UTC. -/
  zone : j.first.offset = some 0
  /-- Its first time is the least multiple of the interval that lies ahead. -/
  first : IsLeast {k : ℤ | interval.micros ∣ k ∧ t * microsPerSecond < k} (j.wake 0)
  /-- All of its times are multiples of the interval. -/
  wakes : ∀ n, interval.micros ∣ j.wake n

/-- A whole number `n` of seconds has itself for its `wholeSeconds`. -/
theorem Duration.wholeSeconds_mul {d : Duration} {n : ℤ} (h : 0 < n)
    (hd : d.micros = n * microsPerSecond) : d.wholeSeconds = n := by
  obtain ⟨k, rfl⟩ := Int.eq_ofNat_of_zero_le h.le
  have habs : d.micros.natAbs = k * microsPerSecond := by omega
  rw [wholeSeconds, if_neg (by omega), habs, wholePart_mul]

/-- A length of time that dates can be told in, below `datedMicros`, is a duration. -/
theorem Duration.ofMicros?_of_lt {d : Duration} (h : 0 < d.micros) (hlt : d.micros < datedMicros) :
    ofMicros? d.micros = some d := by
  have hlimit : datedMicros = 253402300800000000 := rfl
  have hbound : ((dayBound * microsPerDay : ℕ) : ℤ) = 86400000000000000000 := rfl
  exact if_pos ⟨(neg_nonpos.2 (Int.natCast_nonneg _)).trans h.le, by omega⟩

namespace Schedule

variable {r : Run} {x : Executor} {interval : Duration} {given : Option Reading} {t : ℚ}
  {first : DateTime} {j : Job}

/-- A job of `backupJob?` has the whole seconds of `interval` for its period. -/
theorem micros_of_backupJob? (h : backupJob? interval first = some j) :
    j.id = jobId ∧ j.first = first ∧
      j.interval.micros = interval.wholeSeconds * microsPerSecond := by
  obtain ⟨period, hperiod, rfl⟩ := Option.map_eq_some_iff.1 h
  rw [Duration.ofFields?, Duration.ofMicros?, Option.ite_none_right_eq_some] at hperiod
  refine ⟨rfl, rfl, ?_⟩
  rw [← Option.some.inj hperiod.2, zero_mul, zero_add, add_zero]

/-- An `interval` of whole seconds is the period of its job. -/
theorem backupJob?_of_eq_mul {n : ℤ} (h : 0 < n) (hn : interval.micros = n * microsPerSecond)
    (hrange : Duration.ofMicros? interval.micros = some interval) (first : DateTime) :
    ∃ j, backupJob? interval first = some j ∧ j.id = jobId ∧ j.first = first ∧
      j.interval = interval := by
  have hmicros : (0 * 86400 + n) * (microsPerSecond : ℤ) + 0 = interval.micros := by
    rw [zero_mul, zero_add, add_zero, hn]
  have hperiod : Duration.ofFields? 0 interval.wholeSeconds 0 = some interval := by
    rw [Duration.wholeSeconds_mul h hn, Duration.ofFields?, hmicros, hrange]
  rw [backupJob?, hperiod]
  exact ⟨_, rfl, rfl, rfl, rfl⟩

/-- **A job that keeps to its `interval`**, by `Job.Follows`, has one of whole seconds, and a date
for its first time. -/
theorem dated_of_follows (h : r.timer = none) (hs : r.world.SparesTimer)
    (hi : microsPerSecond ≤ interval.micros) (hnow : (clock r given).value? = some t) (ht : 0 ≤ t)
    {s : Run} (hon : (setUp x interval given).on r = (.ok (), s)) (hjobs : jobs s = [j])
    (hj : j.Follows interval t) :
    (microsPerSecond : ℤ) ∣ interval.micros ∧
      ∃ k : ℤ, interval.micros ∣ k ∧ t * microsPerSecond < k ∧ k < datedMicros := by
  have hpos := Duration.wholeSeconds_pos hi
  rcases hfirst : nextTick interval.wholeSeconds (clock r given) with f | first
  · rw [setUp_on_error h hfirst] at hon
    cases hon
  rcases hjob : backupJob? interval first with _ | j'
  · rw [setUp_on_half h hs hfirst hjob] at hon
    cases hon
  rw [setUp_on_job h hs hfirst hjob] at hon
  cases hon
  obtain rfl : j = j' := (List.singleton_injective hjobs).symm
  obtain ⟨-, hj', hperiod⟩ := micros_of_backupJob? hjob
  rw [hj.period] at hperiod
  refine ⟨Dvd.intro_left _ hperiod.symm, j.wake 0, hj.first.1.1, hj.first.1.2, ?_⟩
  obtain ⟨hlt, rfl⟩ := (nextTick_eq_ok_iff hpos hnow ht).1 hfirst
  rw [Job.wake, hj']
  dsimp only
  omega

/-- **An `interval` of whole seconds is kept to** if a multiple of it lies ahead that a date can be
given to. -/
theorem exists_follows (h : r.timer = none) (hs : r.world.SparesTimer)
    (hi : microsPerSecond ≤ interval.micros) (hnow : (clock r given).value? = some t) (ht : 0 ≤ t)
    (hwhole : (microsPerSecond : ℤ) ∣ interval.micros) {k : ℤ} (hdvd : interval.micros ∣ k)
    (hahead : t * microsPerSecond < k) (hlt : k < datedMicros) :
    ∃ s j, (setUp x interval given).on r = (.ok (), s) ∧ s.executor = some x ∧ jobs s = [j] ∧
      j.Follows interval t := by
  have hpos := Duration.wholeSeconds_pos hi
  obtain ⟨n, hn⟩ := hwhole
  rw [mul_comm] at hn
  have hmicros : 0 < interval.micros := lt_of_lt_of_le (by decide) hi
  have hn₀ : 0 < n := (mul_pos_iff_of_pos_right (by decide)).1 (hn ▸ hmicros)
  have hleast := isLeast_tickAfter_mul hn₀ t
  rw [← hn, ← Duration.wholeSeconds_mul hn₀ hn] at hleast
  have hdated := (hleast.2 ⟨hdvd, hahead⟩).trans_lt hlt
  have hahead₀ : (0 : ℚ) < (tickAfter interval.wholeSeconds ⌊t⌋ * microsPerSecond : ℤ) :=
    (mul_nonneg ht (by norm_num)).trans_lt hleast.1.2
  obtain ⟨first, hfirst, hwall, hzone⟩ : ∃ first : DateTime,
      nextTick interval.wholeSeconds (clock r given) = .ok first ∧
        first.wall = DateTime.unixEpoch +
          tickAfter interval.wholeSeconds ⌊t⌋ * microsPerSecond ∧ first.offset = some 0 :=
    ⟨_, (nextTick_eq_ok_iff hpos hnow ht).2 ⟨hdated, rfl⟩, rfl, rfl⟩
  have hdatedInterval := (Int.le_of_dvd (Int.cast_pos.1 hahead₀) hleast.1.1).trans_lt hdated
  obtain ⟨j, hjob, hid, hj, hperiod⟩ :=
    backupJob?_of_eq_mul hn₀ hn (Duration.ofMicros?_of_lt hmicros hdatedInterval) first
  have hwake : ∀ m : ℕ, j.wake m =
      tickAfter interval.wholeSeconds ⌊t⌋ * microsPerSecond + m * interval.micros := by
    intro m
    rw [Job.wake, hj, hperiod, hwall]
    ring
  refine ⟨_, j, setUp_on_job h hs hfirst hjob, rfl, rfl, hid, hperiod, by rw [hj, hzone], ?_,
    fun m => ?_⟩
  · rw [hwake, Nat.cast_zero, zero_mul, add_zero]
    exact hleast
  · rw [hwake]
    exact dvd_add hleast.1.1 (dvd_mul_left _ _)

/-- **Which intervals the timer that `setUp` makes keeps to**: those of whole seconds of which a
multiple lies ahead that a date can be given to. -/
theorem setUp_follows_iff (h : r.timer = none) (hs : r.world.SparesTimer)
    (hi : microsPerSecond ≤ interval.micros) (hnow : (clock r given).value? = some t) (ht : 0 ≤ t) :
    (∃ s j, (setUp x interval given).on r = (.ok (), s) ∧ s.executor = some x ∧ jobs s = [j] ∧
        j.Follows interval t) ↔
      (microsPerSecond : ℤ) ∣ interval.micros ∧
        ∃ k : ℤ, interval.micros ∣ k ∧ t * microsPerSecond < k ∧ k < datedMicros := by
  constructor
  · rintro ⟨s, j, hon, -, hjobs, hj⟩
    exact dated_of_follows h hs hi hnow ht hon hjobs hj
  · rintro ⟨hwhole, k, hdvd, hahead, hlt⟩
    exact exists_follows h hs hi hnow ht hwhole hdvd hahead hlt

end Schedule

/-! ## Intervals of configurations -/

section Configurations

variable {files : FileTree} {path : Option String} {env : Environment} {c : Config} {r : Run}
  {x : Executor} {given : Option Reading} {t : ℚ}

/-- **Which accepted intervals are kept to.**  With the interval of the configuration `c`, which is
loaded, `setUp` makes one job that runs at the multiples of the interval, beginning with the next
one, just when the interval is one of whole seconds and a multiple of it lies ahead before the year
10000. -/
theorem Config.followed_iff (h : Config.loaded files path env = .ok c) (hr : r.timer = none)
    (hs : r.world.SparesTimer) (hnow : (Schedule.clock r given).value? = some t) (ht : 0 ≤ t) :
    (∃ s j, (Schedule.setUp x c.backup.interval given).on r = (.ok (), s) ∧ s.executor = some x ∧
        Schedule.jobs s = [j] ∧ j.Follows c.backup.interval t) ↔
      (microsPerSecond : ℤ) ∣ c.backup.interval.micros ∧
        ∃ k : ℤ, c.backup.interval.micros ∣ k ∧ t * microsPerSecond < k ∧ k < datedMicros :=
  Schedule.setUp_follows_iff hr hs (Config.isValid_of_loaded h).backup.interval hnow ht

/-- The settings of variables that say nothing but the `interval` at which backups are to be
made. -/
def settingsEvery (interval : String) : Except ConfigFailure Config :=
  Config.ofText "" [("BACKUP_INTERVAL", interval)]

/-- The interval of the settings `settingsEvery interval`. -/
def intervalOf (interval : String) : Duration :=
  (Config.orDefault (settingsEvery interval)).backup.interval

/-- A quarter of a second past a full one. -/
theorem value?_quarterPast :
    (Schedule.clock {} (some (.fractional 1705320006.25))).value? = some (6821280025 / 4) := by
  have hfinite : (1705320006.25 : Float).isFinite = true := by decide +kernel
  have hparts : Binary64.parts 1705320006.25 = ⟨false, 7152630523494400, -22⟩ := by decide +kernel
  rw [Schedule.clock, Option.getD_some, Reading.value?, if_pos hfinite, hparts,
    Binary64.Parts.value]
  norm_num

theorem sparesTimer_default : ({} : Run).world.SparesTimer := fun _ _ _ he => nomatch he

/-- Backups every ninety minutes are made every ninety minutes. -/
theorem followed_ninetyMinutes :
    settingsEvery "90m" = .ok (Config.orDefault (settingsEvery "90m")) ∧
      intervalOf "90m" = ⟨5400000000⟩ ∧
      ∀ x, ∃ s j, (Schedule.setUp x (intervalOf "90m") (some (.fractional 1705320006.25))).on {} =
          (.ok (), s) ∧ s.executor = some x ∧ Schedule.jobs s = [j] ∧
            j.Follows (intervalOf "90m") (6821280025 / 4) := by
  have hok : settingsEvery "90m" = .ok (Config.orDefault (settingsEvery "90m")) :=
    Config.eq_ok_orDefault (by decide +kernel)
  have hinterval : intervalOf "90m" = ⟨5400000000⟩ := by decide +kernel
  refine ⟨hok, hinterval, fun x => (Config.followed_iff hok rfl sparesTimer_default
    value?_quarterPast (by norm_num)).2 ?_⟩
  change _ ∣ (intervalOf "90m").micros ∧ ∃ k, (intervalOf "90m").micros ∣ k ∧ _ ∧ _
  rw [hinterval]
  exact ⟨by decide, 1705325400000000, by decide, by norm_num, by decide⟩

/-- **An interval of one and a half seconds is accepted, and so is one of three million days, and
the timer that `setUp` makes keeps to neither**: the one is cut to whole seconds, and the other has
no date for its first time. -/
theorem not_followed_uneven_endless :
    (settingsEvery "1500ms" = .ok (Config.orDefault (settingsEvery "1500ms")) ∧
      ¬∃ x s j, (Schedule.setUp x (intervalOf "1500ms") (some (.whole 1705320006))).on {} =
        (.ok (), s) ∧ s.executor = some x ∧ Schedule.jobs s = [j] ∧
          j.Follows (intervalOf "1500ms") 1705320006) ∧
    settingsEvery "3000000d" = .ok (Config.orDefault (settingsEvery "3000000d")) ∧
      ¬∃ x s j, (Schedule.setUp x (intervalOf "3000000d") (some (.whole 1705320006))).on {} =
        (.ok (), s) ∧ s.executor = some x ∧ Schedule.jobs s = [j] ∧
          j.Follows (intervalOf "3000000d") 1705320006 := by
  have huneven : intervalOf "1500ms" = ⟨1500000⟩ := by decide +kernel
  have hendless : intervalOf "3000000d" = ⟨259200000000000000⟩ := by decide +kernel
  have hnow : (Schedule.clock {} (some (.whole 1705320006))).value? = some 1705320006 := rfl
  refine ⟨⟨Config.eq_ok_orDefault (by decide +kernel), ?_⟩,
    Config.eq_ok_orDefault (by decide +kernel), ?_⟩
  · rw [huneven]
    rintro ⟨x, s, j, hon, -, hjobs, hj⟩
    have hdvd := (Schedule.dated_of_follows rfl sparesTimer_default (by decide) hnow (by norm_num)
      hon hjobs hj).1
    exact absurd hdvd (by decide)
  · rw [hendless]
    rintro ⟨x, s, j, hon, -, hjobs, hj⟩
    obtain ⟨-, k, hdvd, hahead, hlt⟩ := Schedule.dated_of_follows rfl sparesTimer_default
      (by decide) hnow (by norm_num) hon hjobs hj
    have hpos : (0 : ℚ) < k := lt_trans (by norm_num) hahead
    have hle := Int.le_of_dvd (Int.cast_pos.1 hpos) hdvd
    exact absurd (hle.trans_lt hlt) (by decide)

end Configurations

end DumpKeeper
