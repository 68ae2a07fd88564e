import DumpKeeper.Calendar
import DumpKeeper.Duration

/-!
# Points in time

A point in time is what a wall clock shows, in microseconds since the first day of year one,
together with how far that clock is ahead of UTC — if anything is known about it.  Both ends are
bounded: a clock shows a date of the years 1 to 9999 and nothing else.

* `DateTime`, `DateTime.ofWall?` — the type, and a wall-clock reading checked for its range.
* `DateTime.utcWall` — the reading of a UTC clock; a clock of unknown offset is taken for one.
* `DateTime.toUtcSeconds?` — the same instant in UTC, cut to whole seconds.
* `DateTime.ofUnixMicros?` — an instant from the microseconds since 1970.
* `DateTime.iso`, `DateTime.spaced`, `DateTime.described` — the three texts of a point in time.
-/

set_option autoImplicit false

namespace DumpKeeper

/-- A wall-clock reading in microseconds since the beginning of year one, and the microseconds that
the clock is ahead of UTC, if known. -/
structure DateTime where
  wall : Int
  offset : Option Int
  deriving DecidableEq, Repr, Inhabited

namespace DateTime

/-- The first microsecond after the year 9999. -/
def wallLimit : Int := dayLimit * microsPerDay

/-- The day on which Unix time begins. -/
def unixDay : Nat := 719162

/-- The wall-clock reading at which Unix time begins. -/
def unixEpoch : Int := unixDay * microsPerDay

/-- The clock that reads `wall`, unless that lies outside the years 1 to 9999. -/
def ofWall? (wall : Int) (offset : Option Int) : Option DateTime :=
  if 0 ≤ wall ∧ wall < wallLimit then some ⟨wall, offset⟩ else none

/-- The UTC clock `n` microseconds after the beginning of 1970. -/
def ofUnixMicros? (n : Int) : Option DateTime :=
  ofWall? (unixEpoch + n) (some 0)

/-- The instant `t` as a reading of the UTC clock, whether or not the clock can show it. -/
def utcWall (t : DateTime) : Int :=
  t.wall - t.offset.getD 0

/-- The same instant on the UTC clock, cut to whole seconds; `none` when the UTC clock cannot
show it. -/
def toUtcSeconds? (t : DateTime) : Option DateTime :=
  (ofWall? t.utcWall (some 0)).map fun u => { u with wall := u.wall - u.wall % microsPerSecond }

/-- The date that the clock `t` shows. -/
def date (t : DateTime) : Date :=
  Date.ofDay (t.wall / microsPerDay).toNat

/-- The hour that the clock `t` shows. -/
def hour (t : DateTime) : Nat := (t.wall % microsPerDay / 3600000000).toNat

/-- The minute that the clock `t` shows. -/
def minute (t : DateTime) : Nat := (t.wall % 3600000000 / 60000000).toNat

/-- The second that the clock `t` shows. -/
def second (t : DateTime) : Nat := (t.wall % 60000000 / microsPerSecond).toNat

/-- The fraction of the second that the clock `t` shows, in microseconds. -/
def microsecond (t : DateTime) : Nat := (t.wall % microsPerSecond).toNat

/-! ## Texts -/

open Duration (padded)

/-- Year, month and day with hyphens, the year padded to `yearWidth` digits. -/
def dateText (yearWidth : Nat) (d : Date) : String :=
  padded yearWidth d.year ++ "-" ++ padded 2 d.month ++ "-" ++ padded 2 d.day

/-- Hour, minute and second of `t` with colons. -/
def timeText (t : DateTime) : String :=
  padded 2 t.hour ++ ":" ++ padded 2 t.minute ++ ":" ++ padded 2 t.second

/-- The `offset` from UTC: hours and minutes, then seconds and their fraction if not zero. -/
def offsetText (offset : Int) : String :=
  let n := offset.natAbs
  let s := n / microsPerSecond
  let us := n % microsPerSecond
  (if offset < 0 then "-" else "+") ++ padded 2 (s / 3600) ++ ":" ++ padded 2 (s % 3600 / 60) ++
    (if s % 60 = 0 ∧ us = 0 then "" else ":" ++ padded 2 (s % 60)) ++
    (if us = 0 then "" else "." ++ padded 6 us)

/-- Date and time with `separator` between them, then the offset if known. -/
def textWith (separator : String) (t : DateTime) : String :=
  dateText 4 t.date ++ separator ++ t.timeText ++
    (if t.microsecond = 0 then "" else "." ++ padded 6 t.microsecond) ++
    (match t.offset with | some o => offsetText o | none => "")

/-- The text of a point in time with a `T` before the time of day. -/
def iso (t : DateTime) : String := t.textWith "T"

/-- The text of `t` with a space before the time of day. -/
def spaced (t : DateTime) : String := t.textWith " "

/-- The date `d` with the name of its kind. -/
def describedDate (d : Date) : String :=
  "datetime.date(" ++ toString d.year ++ ", " ++ toString d.month ++ ", " ++ toString d.day ++ ")"

/-- The zone of the `offset`, by name. -/
def describedZone (offset : Int) : String :=
  if offset = 0 then "datetime.timezone.utc"
  else "datetime.timezone(" ++ Duration.described ⟨offset⟩ ++ ")"

/-- The point in time `t` with the names of its kind and zone; seconds and microseconds are left out
from the end while they are zero. -/
def described (t : DateTime) : String :=
  let d := t.date
  let fields := [d.year, d.month, d.day, t.hour, t.minute] ++
    (if t.microsecond ≠ 0 then [t.second, t.microsecond]
      else if t.second ≠ 0 then [t.second] else [])
  let zone := match t.offset with
    | some o => ["tzinfo=" ++ describedZone o]
    | none => []
  "datetime.datetime(" ++ ", ".intercalate (fields.map toString ++ zone) ++ ")"

end DateTime

end DumpKeeper
