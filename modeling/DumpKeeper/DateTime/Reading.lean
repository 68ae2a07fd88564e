import DumpKeeper.DateTime
import DumpKeeper.Text.Digits

/-!
# Reading points in time

A point in time is written as a date, a `T` or a space, and a time of the day, which may have a
fraction and the offset of the clock.

* `DateTime.ofIso?` — the point in time of such a text.
-/

set_option autoImplicit false

namespace DumpKeeper.DateTime

/-- A number of `width` ASCII digits at the beginning of the text `cs`, and the rest. -/
def fixed? (width : Nat) (cs : List Char) : Option (Nat × List Char) :=
  let ds := cs.take width
  if ds.length = width ∧ ds.all Char.isDigit then
    some (Text.natOfDigits (ds.map fun c => c.toNat - 48), cs.drop width)
  else none

/-- The rest of a text behind one of `marks`. -/
def behind? (marks : List Char) : List Char → Option (List Char)
  | c :: rest => if marks.contains c then some rest else none
  | [] => none

/-- The fraction of a second that `cs` begins with, in microseconds, further digits left out. -/
def fraction (cs : List Char) : Nat × List Char :=
  match behind? ['.', ','] cs with
  | none => (0, cs)
  | some rest =>
    let ds := rest.takeWhile Char.isDigit
    let six := (ds ++ List.replicate 6 '0').take 6
    (Text.natOfDigits (six.map fun c => c.toNat - 48), rest.dropWhile Char.isDigit)

/-- Hours, minutes, and seconds if there are any, in microseconds, and the rest of `cs`. -/
def clockTime? (cs : List Char) : Option (Nat × List Char) := do
  let (h, cs) ← fixed? 2 cs
  let cs ← behind? [':'] cs
  let (m, cs) ← fixed? 2 cs
  match behind? [':'] cs with
  | none => if h < 24 ∧ m < 60 then some ((h * 60 + m) * 60000000, cs) else none
  | some cs =>
    let (s, cs) ← fixed? 2 cs
    let (us, cs) := fraction cs
    if h < 24 ∧ m < 60 ∧ s < 60 then some (((h * 60 + m) * 60 + s) * 1000000 + us, cs) else none

/-- The offset of a clock, if the text has one. -/
def offset? : List Char → Option (Option Int)
  | [] => some none
  | ['Z'] => some (some 0)
  | '+' :: cs => do
    let (t, rest) ← clockTime? cs
    if rest.isEmpty then some (some (Int.ofNat t)) else none
  | '-' :: cs => do
    let (t, rest) ← clockTime? cs
    if rest.isEmpty then some (some (-Int.ofNat t)) else none
  | _ => none

/-- The date at the beginning of the text `cs`, and the rest. -/
def date? (cs : List Char) : Option (Date × List Char) := do
  let (y, cs) ← fixed? 4 cs
  let cs ← behind? ['-'] cs
  let (m, cs) ← fixed? 2 cs
  let cs ← behind? ['-'] cs
  let (d, cs) ← fixed? 2 cs
  let date : Date := ⟨y, m, d⟩
  if date.isValid then some (date, cs) else none

/-- The point in time that the text `s` spells. -/
def ofIso? (s : String) : Option DateTime := do
  let (date, cs) ← date? s.toList
  let cs ← behind? ['T', ' '] cs
  let (t, cs) ← clockTime? cs
  let offset ← offset? cs
  ofWall? (date.toDay * microsPerDay + t) offset

end DumpKeeper.DateTime
