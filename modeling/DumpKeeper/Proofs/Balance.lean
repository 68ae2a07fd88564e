import DumpKeeper.Proofs.Counting
import Mathlib.Data.Bool.Count

/-!
# How the counters of many cycles agree

The counters of a program that makes one backup cycle after the other are not independent of each
other: what one of them shows can be told from the others, and from the answers of the cycles.

* `Made` — a cycle that was made.
* `Cycles` — cycles that were made one after the other, and what was counted.
* `Metrics.Balanced` — how the counters agree.
* `Cycles.balanced` — they agree after every cycle.
-/

set_option autoImplicit false

namespace DumpKeeper

/-! ## Cycles that were made -/

/-- A cycle that was made: `executor` has made it, and `before` is the run before it. -/
structure Made where
  executor : Executor
  before : Run

namespace Made

/-- What the cycle `c` has answered, or how it has failed. -/
def answer (c : Made) : Except Failure (Option String) := ((runCycle c.executor).on c.before).1

/-- The run that the cycle `c` has left. -/
def after (c : Made) : Run := ((runCycle c.executor).on c.before).2

/-- The size of the dump that the cycle `c` has stored, if it has stored one. -/
def stored? (c : Made) : Option Nat := (uploaded? c.executor c.before).map fun u => u.2.1.size

/-- Whether the cycle `c` has stored its dump, however it has ended. -/
def hasStored (c : Made) : Bool := c.stored?.isSome

/-- Whether the cycle `c` has ended well without a key: there was nothing to be backed up. -/
def wasSkipped (c : Made) : Bool :=
  match c.answer with
  | .ok none => true
  | _ => false

/-- Whether the cycle `c` has failed with an error of the store. -/
def wasRefused (c : Made) : Bool :=
  match c.answer with
  | .error (.storage _) => true
  | _ => false

/-- Whether the cycle `c` has failed before its dump was stored. -/
def hasFailed (c : Made) : Bool := !c.hasStored && !c.answer.isOk

/-- The cycle `c` is made in a usual world, and the size of its dump and its time are numbers that
can be counted. -/
structure IsUsual (c : Made) : Prop where
  /-- The world is a usual one. -/
  world : c.before.world.IsUsual c.executor.config.dumpPath
  /-- The size of a dump is in the range of floating-point numbers. -/
  sized : ∀ content changed,
    c.before.world.files.find c.executor.config.dumpPath = .ok (.file content changed) →
      Binary64.fits content.size = true
  /-- The time that the cycle takes is a number. -/
  timed : c.before.world.took.isNumber = true

end Made

/-- **Cycles that were made one after the other**: `Cycles made m` has the last one first in `made`,
and `m` is all that was counted.  Anything else may have changed from one cycle to the next. -/
inductive Cycles : List Made → Metrics → Prop
  | nil : Cycles [] {}
  | cons {made : List Made} {m : Metrics} (c : Made) (before : Cycles made m)
    (hm : c.before.metrics = m) (h : c.IsUsual) : Cycles (c :: made) c.after.metrics

/-- The size of all dumps that the cycles of `made` have stored. -/
def totalStored (made : List Made) : Nat := made.foldr (fun c total => c.stored?.getD 0 + total) 0

/-- **How the counters `m` agree** after the cycles of `made`, the last one first. -/
structure Metrics.Balanced (m : Metrics) (made : List Made) : Prop where
  /-- A backup that was stored is a successful one. -/
  successful : m.successful = .count (made.countP Made.hasStored)
  /-- A failure before that is a failed one. -/
  failed : m.failed = .count (made.countP Made.hasFailed)
  /-- All others were skipped. -/
  attempted : m.attempted =
    .count (made.countP Made.hasStored + made.countP Made.hasFailed + made.countP Made.wasSkipped)
  /-- Backups are timed, successful and failed ones. -/
  durations : m.durations.count = made.countP Made.hasStored + made.countP Made.hasFailed
  /-- The sizes of all stored dumps are known. -/
  sizes : m.sizes.count = made.countP Made.hasStored
  /-- And their sum, up to the largest numbers that are added without rounding. -/
  total : totalStored made < Nat.pow 2 53 → m.sizes.sum = .count (totalStored made)
  /-- There is a cleanup after every stored backup. -/
  cleanups : m.cleanups = .count (made.countP Made.hasStored)
  /-- An upload is successful, or its store has refused it. -/
  uploads : m.uploads = .count (made.countP Made.hasStored + made.countP Made.wasRefused)
  /-- A deletion works or fails. -/
  deletes : ∃ deleted failures, m.deleted = .count deleted ∧ m.deleteFailures = .count failures ∧
    m.deletes = .count (deleted + failures)
  /-- The time of the last stored backup is known. -/
  lastBackup : ∀ c ∈ made.find? Made.hasStored,
    c.before.world.now.toFloat? = some m.lastBackup

/-! ## Histograms -/

namespace Histogram

variable {h : Histogram} {bounds : List Float} {a : Amount} {x : Float}

theorem length_bins_observe (h : Histogram) (bounds : List Float) (a : Amount) :
    (h.observe bounds a).bins.length = h.bins.length := by
  rw [observe]
  split
  · rfl
  · dsimp only
    split
    · exact length_place _ _ _
    · rfl

/-- The amount `a`, if it is a number, is counted once by `observe`. -/
theorem count_observe (hbins : h.bins.length = bounds.length + 1) (hx : a.toFloat? = some x)
    (ha : a.isNumber = true) : (h.observe bounds a).count = h.count + 1 := by
  rw [observe, hx]
  dsimp only
  rw [if_pos ha]
  exact total_place _ _ _ hbins

theorem sum_observe (h : Histogram) (bounds : List Float) (hx : a.toFloat? = some x) :
    (h.observe bounds a).sum = h.sum.plus a := by
  rw [observe, hx]

end Histogram

/-- Both histograms of `m` have one more bucket than they have bounds. -/
structure Metrics.Shaped (m : Metrics) : Prop where
  /-- The histogram of sizes. -/
  sizes : m.sizes.bins.length = sizeBounds.length + 1
  /-- The histogram of times. -/
  durations : m.durations.bins.length = durationBounds.length + 1

namespace Metrics

variable {m : Metrics} {made : List Made} {c : Made}

theorem Shaped.tick (h : m.Shaped) (c : Counter) : (m.tick c).Shaped := by
  cases c <;> exact ⟨h.sizes, h.durations⟩

theorem Shaped.setGauge (h : m.Shaped) (x : Float) : (m.setGauge x).Shaped := ⟨h.sizes, h.durations⟩

theorem Shaped.observe (h : m.Shaped) (d : Distribution) (a : Amount) : (m.observe d a).Shaped := by
  cases d with
  | sizes => exact ⟨(Histogram.length_bins_observe _ _ _).trans h.sizes, h.durations⟩
  | durations => exact ⟨h.sizes, (Histogram.length_bins_observe _ _ _).trans h.durations⟩

theorem Shaped.noteDeletions (h : m.Shaped) (worked : List Bool) :
    (m.noteDeletions worked).Shaped := by
  rw [noteDeletions_eq]
  exact ⟨h.sizes, h.durations⟩

/-! ## One cycle more -/

theorem balanced_nil : Metrics.Balanced {} [] := by
  refine ⟨rfl, rfl, rfl, ?_, ?_, fun _ => rfl, rfl, rfl, ⟨0, 0, rfl, rfl, rfl⟩, ?_⟩
  · decide
  · decide
  · rintro c hc
    cases hc

/-- Deletions that were tried do not count for anything else in `m`. -/
theorem Balanced.noteDeletions (h : m.Balanced made) (worked : List Bool) :
    (m.noteDeletions worked).Balanced made := by
  obtain ⟨deleted, failures, hd, hf, hall⟩ := h.deletes
  rw [noteDeletions_eq]
  refine { h with
    deletes := ⟨deleted + worked.count true, failures + worked.count false, ?_, ?_, ?_⟩ }
  · rw [hd, Tally.grown_count]
  · rw [hf, Tally.grown_count]
  · rw [hall, Tally.grown_count, ← List.count_true_add_count_false worked, Nat.add_add_add_comm]

section Step

variable {took : Amount} {x : Float}

/-- A cycle `c` that was skipped counts as nothing but an attempt. -/
theorem Balanced.skip (h : m.Balanced made) (hs : c.stored? = none) (ha : c.answer = .ok none) :
    (m.tick .attempted).Balanced (c :: made) := by
  have hstored : c.hasStored = false := by rw [Made.hasStored, hs]; rfl
  have hfailed : c.hasFailed = false := by
    rw [Made.hasFailed, ha]
    exact Bool.and_false _
  have hskipped : c.wasSkipped = true := by rw [Made.wasSkipped, ha]
  have hrefused : c.wasRefused = false := by rw [Made.wasRefused, ha]
  have htotal : totalStored (c :: made) = totalStored made := by
    rw [totalStored, List.foldr_cons, hs, Option.getD_none, Nat.zero_add, totalStored]
  constructor
  · simp only [List.countP_cons, hstored]
    exact h.successful
  · simp only [List.countP_cons, hfailed]
    exact h.failed
  · simp only [List.countP_cons, hstored, hfailed, hskipped]
    exact congrArg Tally.next h.attempted
  · simp only [List.countP_cons, hstored, hfailed]
    exact h.durations
  · simp only [List.countP_cons, hstored]
    exact h.sizes
  · rw [htotal]
    exact h.total
  · simp only [List.countP_cons, hstored]
    exact h.cleanups
  · simp only [List.countP_cons, hstored, hrefused]
    exact h.uploads
  · exact h.deletes
  · rw [List.find?_cons_of_neg (by simp [hstored])]
    exact h.lastBackup

/-- A cycle `c` that failed before its dump was stored; whether it has come to an upload shows in
the counter of uploads only. -/
theorem Balanced.fail (h : m.Balanced made) (hm : m.Shaped) (hx : took.toFloat? = some x)
    (hnumber : took.isNumber = true) (hs : c.stored? = none) {f : Failure}
    (ha : c.answer = .error f) {u : Tally}
    (hu : u = .count (made.countP Made.hasStored + (c :: made).countP Made.wasRefused)) :
    Metrics.Balanced { (m.tick .attempted).noteFailure took with uploads := u } (c :: made) := by
  have hstored : c.hasStored = false := by rw [Made.hasStored, hs]; rfl
  have hfailed : c.hasFailed = true := by rw [Made.hasFailed, hstored, ha]; rfl
  have hskipped : c.wasSkipped = false := by rw [Made.wasSkipped, ha]
  have htotal : totalStored (c :: made) = totalStored made := by
    rw [totalStored, List.foldr_cons, hs, Option.getD_none, Nat.zero_add, totalStored]
  constructor
  · simp only [List.countP_cons, hstored]
    exact h.successful
  · simp only [List.countP_cons, hfailed]
    exact congrArg Tally.next h.failed
  · simp only [List.countP_cons, hstored, hfailed, hskipped]
    refine (congrArg Tally.next h.attempted).trans (congrArg Tally.count ?_)
    simp only [Bool.false_eq_true, if_false, if_true]
    omega
  · simp only [List.countP_cons, hstored, hfailed]
    refine (Histogram.count_observe hm.durations hx hnumber).trans ?_
    rw [h.durations]
    rfl
  · simp only [List.countP_cons, hstored]
    exact h.sizes
  · rw [htotal]
    exact h.total
  · simp only [List.countP_cons, hstored]
    exact h.cleanups
  · rw [List.countP_cons_of_neg (by simp [hstored])]
    exact hu
  · exact h.deletes
  · rw [List.find?_cons_of_neg (by simp [hstored])]
    exact h.lastBackup

theorem cleanups_noteStored (m : Metrics) (size : Nat) (now : Reading) (took : Amount) :
    ((m.tick .attempted).noteStored size now took).cleanups = m.cleanups.next := by
  simp only [noteStored, noteUpload, tick, update, observe, setGauge]

theorem sizes_noteStored (m : Metrics) (size : Nat) (now : Reading) (took : Amount) :
    ((m.tick .attempted).noteStored size now took).sizes =
      m.sizes.observe sizeBounds (.whole size) := by
  simp only [noteStored, noteUpload, tick, update, observe, setGauge]

theorem uploads_noteStored (m : Metrics) (size : Nat) (now : Reading) (took : Amount) :
    ((m.tick .attempted).noteStored size now took).uploads = m.uploads.next := by
  simp only [noteStored, noteUpload, tick, update, observe, setGauge]

/-- A cycle `c` that has stored its dump of `size` bytes, whether it has failed behind that or
not. -/
theorem Balanced.store (h : m.Balanced made) (hm : m.Shaped) (hx : took.toFloat? = some x)
    (hnumber : took.isNumber = true) {size : Nat} (hsize : Binary64.fits size = true)
    (hs : c.stored? = some size) (hskipped : c.wasSkipped = false)
    (hrefused : c.wasRefused = false) {now : Float}
    (hnow : c.before.world.now.toFloat? = some now) :
    ((m.tick .attempted).noteStored size c.before.world.now took).Balanced (c :: made) := by
  have hstored : c.hasStored = true := by rw [Made.hasStored, hs]; rfl
  have hfailed : c.hasFailed = false := by rw [Made.hasFailed, hstored]; rfl
  have htotal : totalStored (c :: made) = size + totalStored made := by
    rw [totalStored, List.foldr_cons, hs, Option.getD_some, totalStored]
  have hfloat : (Amount.whole size).toFloat? = some (Float.ofInt size) := by
    rw [Amount.toFloat?, Binary64.ofInt?, Int.natAbs_natCast, if_pos hsize]
  constructor
  · simp only [List.countP_cons, hstored]
    exact congrArg Tally.next h.successful
  · simp only [List.countP_cons, hfailed]
    exact h.failed
  · simp only [List.countP_cons, hstored, hfailed, hskipped]
    refine (congrArg Tally.next h.attempted).trans (congrArg Tally.count ?_)
    simp only [Bool.false_eq_true, if_false, if_true]
    omega
  · simp only [List.countP_cons, hstored, hfailed]
    refine (Histogram.count_observe hm.durations hx hnumber).trans ?_
    rw [h.durations]
    simp only [Bool.false_eq_true, if_false, if_true]
    omega
  · rw [List.countP_cons_of_pos hstored, sizes_noteStored,
      Histogram.count_observe hm.sizes hfloat rfl, h.sizes]
  · rw [htotal, sizes_noteStored, Histogram.sum_observe _ _ hfloat]
    intro hlt
    rw [h.total (by omega), Tally.plus, if_neg (by omega), Int.toNat_natCast,
      Tally.plusNat_count _ _ (by rw [Nat.add_comm]; exact hlt), Nat.add_comm]
  · rw [List.countP_cons_of_pos hstored, cleanups_noteStored]
    exact congrArg Tally.next h.cleanups
  · rw [List.countP_cons_of_pos hstored, uploads_noteStored,
      List.countP_cons_of_neg (by simp [hrefused]), Nat.add_right_comm]
    exact congrArg Tally.next h.uploads
  · exact h.deletes
  · rw [List.find?_cons_of_pos hstored]
    rintro d hd
    obtain rfl := Option.some.inj hd
    have hgauge : ((m.tick .attempted).noteStored size c.before.world.now took).lastBackup =
        c.before.world.now.toFloat?.getD m.lastBackup := by
      simp [noteStored, noteUpload, setGauge]
    rw [hgauge, hnow, Option.getD_some]

end Step

end Metrics

/-! ## All cycles -/

/-- The reading `r` is a floating-point number if it is that of a point in time. -/
theorem exists_toFloat? {r : Reading} {now : DateTime} (h : DateTime.ofReading r = .ok now) :
    ∃ x, r.toFloat? = some x := by
  cases r with
  | fractional x => exact ⟨x, rfl⟩
  | whole n =>
    have hwall : 0 ≤ DateTime.unixEpoch + n * microsPerSecond ∧
        DateTime.unixEpoch + n * microsPerSecond < DateTime.wallLimit := by
      change DateTime.ofUnix n 0 = .ok now at h
      rw [DateTime.ofUnix] at h
      split at h
      · cases h
      split at h
      · cases h
      rw [DateTime.ofUnixMicros?, DateTime.ofWall?] at h
      split at h
      · rename_i hu
        split at hu
        · rename_i hw
          simpa using hw
        · cases hu
      · cases h
    have hlt : n.natAbs < Nat.pow 2 53 := by
      simp only [DateTime.unixEpoch, DateTime.unixDay, DateTime.wallLimit, dayLimit,
        microsPerDay, microsPerSecond] at hwall
      have hpow : Nat.pow 2 53 = 9007199254740992 := by decide
      omega
    exact ⟨_, by rw [Reading.toFloat?, Binary64.ofInt?, if_pos (Binary64.fits_of_lt _ hlt)]⟩

/-- What the cycle `c` counts keeps the counters in balance. -/
theorem Metrics.Balanced.next {made : List Made} {c : Made} (h : c.before.metrics.Balanced made)
    (hm : c.before.metrics.Shaped) (hc : c.IsUsual) :
    c.after.metrics.Shaped ∧ c.after.metrics.Balanced (c :: made) := by
  obtain ⟨now, hnow⟩ := hc.world.clock
  obtain ⟨x, hx⟩ := exists_toFloat? hnow
  have htook : c.before.world.took.toFloat? = some _ := rfl
  have hstored : ∀ {u}, uploaded? c.executor c.before = u →
      c.stored? = u.map fun u => u.2.1.size := fun hu => congrArg (Option.map _) hu
  have hway : c.executor.Accounts c.before c.answer c.after.metrics := accounts_runCycle hc.world
  generalize hanswer : c.answer = answer at hway
  generalize c.after.metrics = m at hway
  cases hway with
  | skipped hup => exact ⟨hm.tick _, h.skip (hstored hup) hanswer⟩
  | @failed f hup hf =>
    refine ⟨((hm.tick _).observe _ _).tick _, ?_⟩
    refine h.fail hm htook hc.timed (hstored hup) hanswer (u := c.before.metrics.uploads) ?_
    rw [h.uploads, List.countP_cons_of_neg]
    rw [Made.wasRefused, hanswer]
    cases f with
    | storage e => exact absurd rfl (hf e)
    | _ => exact Bool.false_ne_true
  | refused e hup =>
    refine ⟨(((hm.tick _).tick _).observe _ _).tick _, ?_⟩
    refine h.fail hm htook hc.timed (hstored hup) hanswer
      (u := c.before.metrics.uploads.next) ?_
    rw [h.uploads, List.countP_cons_of_pos (by rw [Made.wasRefused, hanswer])]
    rfl
  | @stored key content t _ worked hup hfind hend =>
    obtain ⟨changed, hfind⟩ := hfind
    have hskipped : c.wasSkipped = false := by
      obtain ⟨rfl, -⟩ | ⟨f, rfl, -⟩ := hend <;> rw [Made.wasSkipped, hanswer]
    have hrefused : c.wasRefused = false := by
      obtain ⟨rfl, -⟩ | ⟨f, rfl, hf, -⟩ := hend
      · rw [Made.wasRefused, hanswer]
      · rw [Made.wasRefused, hanswer]
        cases f with
        | storage e => exact absurd rfl (hf e)
        | _ => rfl
    have hshape : ((c.before.metrics.tick .attempted).noteStored content.size
        c.before.world.now c.before.world.took).Shaped :=
      ((((((hm.tick _).tick _).observe _ _).setGauge _).observe _ _).tick _).tick _
    exact ⟨hshape.noteDeletions worked, (h.store hm htook hc.timed (hc.sized content changed hfind)
      (hstored hup) hskipped hrefused hx).noteDeletions worked⟩

/-- **The counters agree after every cycle**, by `Metrics.Balanced`. -/
theorem Cycles.balanced {made : List Made} {m : Metrics} (h : Cycles made m) :
    m.Balanced made := by
  -- adding to the counters takes their shape, so both are carried along
  suffices hboth : m.Shaped ∧ m.Balanced made from hboth.2
  induction h with
  | nil => exact ⟨⟨rfl, rfl⟩, Metrics.balanced_nil⟩
  | cons c before hm hc ih =>
    subst hm
    exact ih.2.next ih.1 hc

/-! ## A good day and a bad one -/

/-- A cycle that stores its dump, with nothing counted before. -/
def goodCycle : Made :=
  ⟨.keeping "backups" "a" 1, .holding (.mk #[1]) ⟨1705320000, 0⟩ 1705320005 []⟩

/-- A cycle a day after `goodCycle`, when the store cannot be reached. -/
def badCycle : Made :=
  let before := Run.holding (.mk #[1]) ⟨1705320000, 0⟩ 1705406405 []
  ⟨.keeping "backups" "a" 1,
    { before with
      metrics := goodCycle.after.metrics
      world := { before.world with faults := [("put_object", some (.unreachable "reset"))] } }⟩

theorem isUsual_of_holding {c : Made} {now : DateTime}
    (hx : c.executor = .keeping "backups" "a" 1)
    (hfiles : c.before.world.files = .holding (.mk #[1]) ⟨1705320000, 0⟩)
    (hexpects : c.before.world.Expects) (hclock : DateTime.ofReading c.before.world.now = .ok now)
    (hlimits : c.before.world.limits = {}) (helapsed : c.before.world.elapsed = .fractional 0.5) :
    c.IsUsual := by
  have hfind : c.before.world.files.find c.executor.config.dumpPath =
      .ok (.file (.mk #[1]) ⟨1705320000, 0⟩) := by
    rw [hfiles, hx]
    exact find_holding rfl rfl _ _
  refine ⟨World.isUsual_of_holding hfind hexpects hclock hlimits, fun content changed h => ?_, ?_⟩
  · rw [hfind] at h
    cases h
    exact Binary64.fits_of_lt _ (by decide)
  · rw [World.took, helapsed]
    decide +kernel

theorem cycles_goodCycle_badCycle : Cycles [badCycle, goodCycle] badCycle.after.metrics := by
  have hgood : goodCycle.IsUsual :=
    isUsual_of_holding rfl rfl (World.expects_of_calm rfl) rfl rfl rfl
  have hplanned : badCycle.before.world.Expects := by
    refine ⟨fun c f h => ?_, fun f h => ?_⟩
    · obtain ⟨hname, hfault⟩ := Prod.mk.inj (List.mem_singleton.1 h)
      obtain rfl := Option.some.inj hfault
      cases c with
      | putObject => rfl
      | _ => exact absurd hname (by simp [Call.name])
    · exact absurd (Prod.mk.inj (List.mem_singleton.1 h)).1 (by decide)
  have hbad : badCycle.IsUsual := isUsual_of_holding rfl rfl hplanned rfl rfl rfl
  exact .cons badCycle (.cons goodCycle .nil rfl hgood) rfl hbad

/-- One of the two uploads was successful, that of `goodCycle`. -/
theorem balanced_goodCycle_badCycle :
    Cycles [badCycle, goodCycle] badCycle.after.metrics ∧
      badCycle.after.metrics.Balanced [badCycle, goodCycle] ∧
      badCycle.after.metrics.successful = .count 1 ∧ badCycle.after.metrics.failed = .count 1 ∧
      badCycle.after.metrics.uploads = .count 2 := by
  have h := Cycles.balanced cycles_goodCycle_badCycle
  have hstored : [badCycle, goodCycle].countP Made.hasStored = 1 := by decide +kernel
  have hfailed : [badCycle, goodCycle].countP Made.hasFailed = 1 := by decide +kernel
  have hrefused : [badCycle, goodCycle].countP Made.wasRefused = 1 := by decide +kernel
  refine ⟨cycles_goodCycle_badCycle, h, ?_, ?_, ?_⟩
  · rw [h.successful, hstored]
  · rw [h.failed, hfailed]
  · rw [h.uploads, hstored, hrefused]

end DumpKeeper
