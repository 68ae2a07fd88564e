/-!
# Days and dates

A day is a number counted from the first of January of the year one, in the calendar that is in use
today, extended backwards.  Dates are only ever read off that number, so there is one direction to
get right and one inverse to state it with.

* `daysBefore` — the days before a year begins.
* `Date`, `Date.ofDay`, `Date.toDay` — a date, the date of a day, the day of a date.
* `dayLimit` — the number of days that dates of four-digit years can name.
* `Date.yearOf_bounds` — a day lies in the year that is read off its number.
-/

set_option autoImplicit false

namespace DumpKeeper

/-- The number of days from the first day of year one to the first day of year `y`. -/
def daysBefore (y : Nat) : Nat :=
  (y - 1) * 365 + (y - 1) / 4 - (y - 1) / 100 + (y - 1) / 400

/-- Whether the year `y` has a leap day: years divisible by four have one, centuries only when
divisible by four hundred. -/
def isLeap (y : Nat) : Bool :=
  y % 4 == 0 && (y % 100 != 0 || y % 400 == 0)

/-- The lengths of the months of the year `y`. -/
def monthLengths (y : Nat) : List Nat :=
  [31, if isLeap y then 29 else 28, 31, 30, 31, 30, 31, 31, 30, 31, 30, 31]

/-- The number of days that the dates of the years 1 to 9999 name. -/
def dayLimit : Nat := 3652059

/-- A date; months and days count from one. -/
structure Date where
  year : Nat
  month : Nat
  day : Nat
  deriving DecidableEq, Repr

namespace Date

/-- The year that day `n` lies in. -/
def yearOf (n : Nat) : Nat :=
  let y := n * 400 / 146097 + 1
  if n < daysBefore y then y - 1
  else if daysBefore (y + 1) ≤ n then y + 1
  else y

/-- Month and day of the month, both from one, of the `n`-th day of months of the given lengths.
`m` is the number of the first of these months. -/
def inMonths (m : Nat) : List Nat → Nat → Nat × Nat
  | [], n => (m, n + 1)
  | [_], n => (m, n + 1)
  | k :: l :: rest, n => if n < k then (m, n + 1) else inMonths (m + 1) (l :: rest) (n - k)

/-- The date of the day `n`. -/
def ofDay (n : Nat) : Date :=
  let y := yearOf n
  let (m, d) := inMonths 1 (monthLengths y) (n - daysBefore y)
  ⟨y, m, d⟩

/-- Whether year, month and day of `d` name a day of the years 1 to 9999. -/
def isValid (d : Date) : Bool :=
  1 ≤ d.year && d.year ≤ 9999 && 1 ≤ d.month && d.month ≤ 12 && 1 ≤ d.day &&
    d.day ≤ (monthLengths d.year).getD (d.month - 1) 0

/-- The day that the date `d` names. -/
def toDay (d : Date) : Nat :=
  daysBefore d.year + ((monthLengths d.year).take (d.month - 1)).foldr (· + ·) 0 + (d.day - 1)

/-- `yearOf` finds the year in which the day lies. -/
theorem yearOf_bounds (n : Nat) :
    daysBefore (yearOf n) ≤ n ∧ n < daysBefore (yearOf n + 1) := by
  simp only [yearOf]
  split
  · rename_i h
    simp only [daysBefore] at h ⊢
    omega
  · split
    · rename_i h₁ h₂
      simp only [daysBefore] at h₁ h₂ ⊢
      omega
    · omega

/-- Year one is the first year. -/
theorem one_le_yearOf (n : Nat) : 1 ≤ yearOf n := by
  simp only [yearOf]
  split
  · rename_i h
    have : n * 400 / 146097 ≠ 0 := by
      intro h0
      simp [h0, daysBefore] at h
    omega
  · split <;> omega

end Date

end DumpKeeper
