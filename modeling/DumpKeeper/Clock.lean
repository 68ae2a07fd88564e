import DumpKeeper.DateTime
import DumpKeeper.Decimal.Shortest

/-!
# Readings of the clock

A clock counts seconds since 1970, in whole seconds or with a fraction.  Schedules look at the whole
seconds of a reading; a reading becomes a point in time on the UTC clock if its year is one that
dates can have.

* `Reading` — what a clock says.
* `Reading.wholeSeconds` — its seconds, the fraction cut off toward zero.
* `TimeFault` — why a count of seconds is no point in time.
* `DateTime.ofUnixSeconds`, `DateTime.ofReading` — the point in time of a count of seconds and of a
  reading.
-/

set_option autoImplicit false

namespace DumpKeeper

/-- What a clock says: seconds since 1970. -/
inductive Reading where
  | whole (n : Int)
  | fractional (x : Float)
  deriving Inhabited

/-- Why a count of seconds is no point in time. -/
inductive TimeFault where
  /-- It is not a number at all. -/
  | notANumber
  /-- It is infinite. -/
  | infinite
  /-- It does not fit into the 64 bits of a system's count. -/
  | beyondCount
  /-- Its year does not fit into the 32 bits of a system's year. -/
  | beyondYears
  /-- Its year is none that dates have. -/
  | year (n : Int)
  /-- A difference of points in time is none that dates have. -/
  | beyondDates
  deriving DecidableEq, Repr

/-- The wording of a fault. -/
def TimeFault.message : TimeFault → String
  | .notANumber => "Invalid value NaN (not a number)"
  | .infinite => "cannot convert float infinity to integer"
  | .beyondCount => "timestamp out of range for platform time_t"
  | .beyondYears => "[Errno 75] Value too large for defined data type"
  | .year n => "year " ++ toString n ++ " is out of range"
  | .beyondDates => "date value out of range"

/-- The seconds of a reading, the fraction cut off toward zero. -/
def Reading.wholeSeconds : Reading → Except TimeFault Int
  | .whole n => .ok n
  | .fractional x =>
    match Binary64.truncate? x with
    | some n => .ok n
    | none => .error (if x.isNaN then .notANumber else .infinite)

/-- A reading as a floating-point number, unless it is too large for one. -/
def Reading.toFloat? : Reading → Option Float
  | .whole n => Binary64.ofInt? n
  | .fractional x => some x

/-- The fraction `f`, between -1 and 1, in microseconds, to the nearest one; a tie goes to the even
neighbour.  The product with a million keeps 53 significant binary digits. -/
def microsOfFraction (f : Float) : Int :=
  let p := Binary64.parts (f * 1000000)
  let n : Nat :=
    if 0 ≤ p.exponent then p.mantissa * Nat.pow 2 p.exponent.toNat
    else Binary64.roundDiv p.mantissa (Nat.pow 2 (-p.exponent).toNat)
  if p.negative then -n else n

/-- A reading to the nearest microsecond, as seconds and microseconds with the same sign. -/
def Reading.split : Reading → Except TimeFault (Int × Int)
  | .whole n => .ok (n, 0)
  | .fractional x =>
    match Binary64.truncate? x with
    | some n => .ok (n, microsOfFraction (x - Float.ofInt n))
    | none => .error (if x.isNaN then .notANumber else .beyondCount)

/-- The first second whose year does not fit, and the last one before the first that does. -/
def yearCountBounds : Int × Int := (67768036191676800, -67768040609740801)

/-- The days of four hundred years. -/
def cycleDays : Nat := 146097

/-- The year that a count of `seconds` since 1970 lies in; the count of years goes on below one. -/
def yearOfUnix (seconds : Int) : Int :=
  let day := DateTime.unixDay + seconds / 86400
  Date.yearOf (day % cycleDays).toNat + 400 * (day / cycleDays)

/-- The point in time, on the UTC clock, that lies `seconds` and `micros` after the beginning of
1970. -/
def DateTime.ofUnix (seconds micros : Int) : Except TimeFault DateTime :=
  let s := seconds + micros / microsPerSecond
  let bound : Int := Nat.pow 2 63
  if s < -bound ∨ bound ≤ s then .error .beyondCount
  else if yearCountBounds.1 ≤ s ∨ s ≤ yearCountBounds.2 then .error .beyondYears
  else
    match DateTime.ofUnixMicros? (s * microsPerSecond + micros % microsPerSecond) with
    | some t => .ok t
    | none => .error (.year (yearOfUnix s))

/-- The point in time, on the UTC clock, of a count of whole `seconds`. -/
def DateTime.ofUnixSeconds (seconds : Int) : Except TimeFault DateTime :=
  DateTime.ofUnix seconds 0

/-- The point in time, on the UTC clock, of the reading `r`. -/
def DateTime.ofReading (r : Reading) : Except TimeFault DateTime := do
  let (seconds, micros) ← r.split
  DateTime.ofUnix seconds micros

/-- The point in time `t` moved back by `d`; the offset stays. -/
def DateTime.before (t : DateTime) (d : Duration) : Except TimeFault DateTime :=
  match DateTime.ofWall? (t.wall - d.micros) t.offset with
  | some u => .ok u
  | none => .error .beyondDates

end DumpKeeper
