import DumpKeeper.Decimal.Binary64

/-!
# Counters

What the program has done is counted.  A counter only grows, a gauge shows the last value it was set
to, and a histogram sorts observed values into buckets and adds them up.  Values are floating-point
numbers when they are shown; as long as only whole numbers were counted they are kept as such.

* `Amount` — something to add: a whole number or a fraction.
* `Tally` — a sum of amounts that are not negative.
* `Histogram`, `Histogram.observe` — observations by size.
* `Histogram.total_place` — every value falls into exactly one bucket.
* `Metrics` — all counters of the program.
* `Counter`, `Distribution` — the counters that only grow, and the histograms, by name.
-/

set_option autoImplicit false

namespace DumpKeeper

/-- Something that can be added to a counter. -/
inductive Amount where
  | whole (n : Int)
  | fraction (x : Float)
  deriving Inhabited

/-- Whether an amount is below zero. -/
def Amount.isNegative : Amount → Bool
  | .whole n => n < 0
  | .fraction x => x < 0

/-- An amount as a floating-point number, unless it is too large for one. -/
def Amount.toFloat? : Amount → Option Float
  | .whole n => Binary64.ofInt? n
  | .fraction x => some x

/-- Whether an amount is a number at all. -/
def Amount.isNumber : Amount → Bool
  | .whole _ => true
  | .fraction x => !x.isNaN

/-! ## Sums -/

/-- A sum of amounts: a whole number as long as all of them were whole numbers. -/
inductive Tally where
  | count (n : Nat)
  | measure (x : Float)
  deriving Inhabited

namespace Tally

/-- Nothing yet. -/
def zero : Tally := count 0

/-- The sum as a floating-point number. -/
def toFloat : Tally → Float
  | count n => Float.ofNat n
  | measure x => x

/-- One more.  A count that reaches `2 ^ 53` goes on here, where a floating-point number would stay
as it is. -/
def next : Tally → Tally
  | count n => count (n + 1)
  | measure x => measure (x + 1)

/-- The number `t` and a whole number `k` more.  The sum keeps 53 significant binary digits. -/
def plusNat (t : Tally) (k : Nat) : Tally :=
  match t with
  | count n => count (Binary64.keep53 (n + Binary64.keep53 k))
  | measure x => measure (x + Float.ofNat k)

/-- The number `t` and a fraction `y` more. -/
def plusFloat (t : Tally) (y : Float) : Tally := measure (t.toFloat + y)

/-- The number `t` and an amount more. -/
def plus (t : Tally) : Amount → Tally
  | .whole n => if n < 0 then t.plusFloat (Float.ofInt n) else t.plusNat n.toNat
  | .fraction y => t.plusFloat y

/-- The sum in whole numbers, a fraction cut off. -/
def toInt : Tally → Int
  | count n => n
  | measure x => (Binary64.truncate? x).getD 0

/-- As long as a sum of whole numbers stays below `2 ^ 53` it is exact. -/
theorem plusNat_count (n k : Nat) (h : n + k < Nat.pow 2 53) :
    (count n).plusNat k = count (n + k) := by
  simp only [plusNat]
  rw [Binary64.keep53_of_lt k (by omega), Binary64.keep53_of_lt (n + k) h]

end Tally

/-! ## Histograms -/

/-- Observations: how many fell into each bucket, and their sum.  The last bucket has no bound. -/
structure Histogram where
  bins : List Nat
  sum : Tally
  deriving Inhabited

namespace Histogram

/-- No observations yet, for so many bounded `buckets`. -/
def empty (buckets : Nat) : Histogram := ⟨List.replicate (buckets + 1) 0, .zero⟩

/-- One more in the first bucket of which `holds` is true, else in the last one. -/
def place (holds : Float → Bool) : List Float → List Nat → List Nat
  | b :: bounds, n :: bins => if holds b then (n + 1) :: bins else n :: place holds bounds bins
  | [], n :: bins => (n + 1) :: bins
  | _, [] => []

/-- How many values some buckets hold.  Like `Tally.next`, this is not rounded beyond `2 ^ 53`. -/
def total (bins : List Nat) : Nat := bins.foldr (· + ·) 0

/-- How many values were observed in `h`. -/
def count (h : Histogram) : Nat := total h.bins

/-- One more observation in `h`, sorted by `bounds`: a value falls into the first bucket whose bound
is not below it.  What is no number falls into no bucket. -/
def observe (h : Histogram) (bounds : List Float) (a : Amount) : Histogram :=
  match a.toFloat? with
  | none => h
  | some x =>
    ⟨if a.isNumber then place (fun b => x ≤ b) bounds h.bins else h.bins, h.sum.plus a⟩

/-- A value falls into exactly one bucket, if there is one more of them than `bounds`. -/
theorem total_place (holds : Float → Bool) (bounds : List Float) (bins : List Nat)
    (h : bins.length = bounds.length + 1) :
    total (place holds bounds bins) = total bins + 1 := by
  induction bounds generalizing bins with
  | nil =>
    match bins, h with
    | [n], _ => simp [place, total]
  | cons b bounds ih =>
    match bins, h with
    | n :: bins, h =>
      simp only [place]
      split
      · simp only [total, List.foldr_cons]
        omega
      · have hbins := ih bins (by simpa using h)
        simp only [total, List.foldr_cons] at hbins ⊢
        omega

/-- Placing a value keeps the number of buckets. -/
theorem length_place (holds : Float → Bool) (bounds : List Float) (bins : List Nat) :
    (place holds bounds bins).length = bins.length := by
  induction bounds generalizing bins with
  | nil => cases bins <;> simp [place]
  | cons b bounds ih =>
    cases bins with
    | nil => simp [place]
    | cons n bins =>
      simp only [place]
      split <;> simp [ih]

/-- The numbers of values in `h` up to each bound. -/
def cumulative (h : Histogram) : List Nat :=
  (h.bins.foldl (fun (acc : List Nat × Nat) n => (acc.1 ++ [acc.2 + n], acc.2 + n)) ([], 0)).1

end Histogram

/-! ## The counters of the program -/

/-- The bounds of the sizes of backups: 1 KiB to 16 GiB, each four times the one before. -/
def sizeBounds : List Float := (List.range 13).map fun i => Float.ofNat (1024 * Nat.pow 4 i)

/-- The bounds of the lengths of cycles, in seconds. -/
def durationBounds : List Float :=
  [0.1, 0.5, 1.0, 2.5, 5.0, 10.0, 30.0, 60.0, 120.0, 300.0, 600.0, 1800.0]

/-- All counters of the program. -/
structure Metrics where
  attempted : Tally := .zero
  successful : Tally := .zero
  failed : Tally := .zero
  sizes : Histogram := .empty 13
  durations : Histogram := .empty 12
  lastBackup : Float := 0
  uploads : Tally := .zero
  deletes : Tally := .zero
  deleteFailures : Tally := .zero
  cleanups : Tally := .zero
  deleted : Tally := .zero
  deriving Inhabited

/-- The counters that only grow. -/
inductive Counter where
  | attempted
  | successful
  | failed
  | uploads
  | deletes
  | deleteFailures
  | cleanups
  | deleted
  deriving DecidableEq, Repr

/-- The histograms. -/
inductive Distribution where
  | sizes
  | durations
  deriving DecidableEq, Repr

/-- The bounds of a histogram. -/
def Distribution.bounds : Distribution → List Float
  | .sizes => sizeBounds
  | .durations => durationBounds

namespace Metrics

/-- The value of a counter in `m`. -/
def get (m : Metrics) : Counter → Tally
  | .attempted => m.attempted
  | .successful => m.successful
  | .failed => m.failed
  | .uploads => m.uploads
  | .deletes => m.deletes
  | .deleteFailures => m.deleteFailures
  | .cleanups => m.cleanups
  | .deleted => m.deleted

/-- What `m` is when `f` has changed a counter. -/
def update (m : Metrics) (f : Tally → Tally) : Counter → Metrics
  | .attempted => { m with attempted := f m.attempted }
  | .successful => { m with successful := f m.successful }
  | .failed => { m with failed := f m.failed }
  | .uploads => { m with uploads := f m.uploads }
  | .deletes => { m with deletes := f m.deletes }
  | .deleteFailures => { m with deleteFailures := f m.deleteFailures }
  | .cleanups => { m with cleanups := f m.cleanups }
  | .deleted => { m with deleted := f m.deleted }

/-- What `m` is when the counter `c` counts one more. -/
def tick (m : Metrics) (c : Counter) : Metrics := m.update .next c

/-- The histogram of some observations in `m`. -/
def histogram (m : Metrics) : Distribution → Histogram
  | .sizes => m.sizes
  | .durations => m.durations

/-- What `m` is when the amount `a` was observed in `d`. -/
def observe (m : Metrics) (d : Distribution) (a : Amount) : Metrics :=
  match d with
  | .sizes => { m with sizes := m.sizes.observe sizeBounds a }
  | .durations => { m with durations := m.durations.observe durationBounds a }

/-- What `m` is when the counter `c` counts `a` more; counters only grow, and an amount below zero
is refused. -/
def add? (m : Metrics) (c : Counter) (a : Amount) : Option Metrics :=
  if a.isNegative then none else some (m.update (·.plus a) c)

/-- What `m` is when its gauge is set to `x`. -/
def setGauge (m : Metrics) (x : Float) : Metrics := { m with lastBackup := x }

/-- What `m` is when its gauge is moved by `x`. -/
def shiftGauge (m : Metrics) (x : Float) : Metrics := m.setGauge (m.lastBackup + x)

/-- A change of the counter `c` shows there and nowhere else. -/
theorem get_update (m : Metrics) (f : Tally → Tally) (c d : Counter) :
    (m.update f c).get d = if c = d then f (m.get c) else m.get d := by
  cases c <;> cases d <;> rfl

end Metrics

end DumpKeeper
