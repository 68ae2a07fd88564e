import DumpKeeper.Decimal.Binary64

/-!
# Spans of time

A duration is a whole number of microseconds, negative ones included, of at most a thousand million
days.  It can be read as days, seconds and microseconds, of which only the days may be negative, and
it is shown in three ways.

* `Duration`, `Duration.ofMicros?`, `Duration.ofFields?` — the type and its two constructors.
* `Duration.days`, `Duration.seconds`, `Duration.microseconds` — the three parts.
* `Duration.wholeSeconds` — the whole seconds of the length in seconds.
* `Duration.compact` — `1h30m`, as jobs are named.
* `Duration.clock` — `1 day, 2:30:00`, as a job's trigger is shown.
* `Duration.described` — the parts that are not zero, as a configuration is shown.
-/

set_option autoImplicit false

namespace DumpKeeper

/-- The microseconds of a second. -/
abbrev microsPerSecond : Nat := 1000000

/-- The microseconds of a day. -/
abbrev microsPerDay : Nat := 86400000000

/-- A span of time in microseconds. -/
structure Duration where
  micros : Int
  deriving DecidableEq, Repr, Inhabited

namespace Duration

/-- The number of days that a duration stays below. -/
def dayBound : Nat := 1000000000

/-- The duration of `n` microseconds, unless it is out of range. -/
def ofMicros? (n : Int) : Option Duration :=
  if -((dayBound - 1) * microsPerDay : Nat) ≤ n ∧ n < (dayBound * microsPerDay : Nat) then
    some ⟨n⟩
  else none

/-- The duration of `days`, `seconds` and `micros`, each of any sign and size, unless it is out of
range. -/
def ofFields? (days seconds micros : Int) : Option Duration :=
  ofMicros? ((days * 86400 + seconds) * microsPerSecond + micros)

/-- The duration of `n` whole seconds. -/
def ofSeconds (n : Int) : Duration := ⟨n * microsPerSecond⟩

/-- The days of `d`, rounded down. -/
def days (d : Duration) : Int := d.micros / microsPerDay

/-- The seconds of `d` beyond its `days`. -/
def seconds (d : Duration) : Int := d.micros % microsPerDay / microsPerSecond

/-- The microseconds of `d` beyond its `seconds`. -/
def microseconds (d : Duration) : Int := d.micros % microsPerSecond

/-- Whether `d` is no time at all. -/
def isZero (d : Duration) : Bool := d.micros == 0

/-- The whole part of `n / microsPerSecond`, where the quotient keeps 53 significant binary digits.
From 2 ^ 34 seconds on the quotient may reach the next whole number. -/
def wholePart (n : Nat) : Nat :=
  let q := n / microsPerSecond
  let fine := Nat.pow 2 (53 - (q.log2 + 1))
  if q = 0 then 0 else Binary64.roundDiv (n * fine) microsPerSecond / fine

/-- The length of `d` in whole seconds, rounded toward zero. -/
def wholeSeconds (d : Duration) : Int :=
  if d.micros < 0 then -wholePart d.micros.natAbs else wholePart d.micros.natAbs

/-- A whole number of seconds is its own length. -/
theorem wholePart_mul (s : Nat) : wholePart (s * microsPerSecond) = s := by
  have hq : s * microsPerSecond / microsPerSecond = s :=
    Nat.mul_div_cancel s (by decide)
  simp only [wholePart, hq]
  split
  · omega
  · rw [Nat.mul_right_comm, Binary64.roundDiv_mul _ _ (by decide)]
    exact Nat.mul_div_cancel s (Nat.two_pow_pos _)

/-! ## Texts -/

/-- One part of the compact text; a part whose `count` is zero is left out. -/
def part (count : Int) (letter : Char) : String :=
  if count = 0 then "" else toString count ++ letter.toString

/-- Days, hours, minutes and seconds, largest first, zeros left out; `0s` for less than a second.
Below zero the days are rounded down and the rest counts up from there. -/
def compact (d : Duration) : String :=
  let s := d.wholeSeconds
  if s = 0 then "0s"
  else
    part (s / 86400) 'd' ++ part (s % 86400 / 3600) 'h' ++ part (s % 3600 / 60) 'm' ++
      part (s % 60) 's'

/-- The number `n` in decimal, padded with zeros on the left to `width` digits. -/
def padded (width n : Nat) : String :=
  let ds := Nat.toDigits 10 n
  String.ofList (List.replicate (width - ds.length) '0' ++ ds)

/-- The days of `d`, if any, and the time of day as a clock shows it. -/
def clock (d : Duration) : String :=
  let s := d.seconds.toNat
  let us := d.microseconds.toNat
  let days :=
    if d.days = 0 then ""
    else toString d.days ++ (if d.days.natAbs = 1 then " day, " else " days, ")
  days ++ toString (s / 3600) ++ ":" ++ padded 2 (s % 3600 / 60) ++ ":" ++ padded 2 (s % 60) ++
    (if us = 0 then "" else "." ++ padded 6 us)

/-- The parts of `d` that are not zero, with their names. -/
def described (d : Duration) : String :=
  let named (name : String) (n : Int) : List String :=
    if n = 0 then [] else [name ++ "=" ++ toString n]
  let parts := named "days" d.days ++ named "seconds" d.seconds ++
    named "microseconds" d.microseconds
  "datetime.timedelta(" ++ (if parts.isEmpty then "0" else ", ".intercalate parts) ++ ")"

end Duration

end DumpKeeper
