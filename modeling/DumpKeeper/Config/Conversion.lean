import DumpKeeper.Config.Error
import DumpKeeper.Text.Lowercase
import DumpKeeper.Text.Numeral

/-!
# From values to settings

A setting may come from a file as a value of any kind, or from a variable as a text.  These are the
ways in which a value becomes a truth value, a count, a port, a duration or a path; each is given
the name of the setting to report.

* `toTruth`, `toCount`, `toPort`, `toDuration`, `toInterval`, `toPath` — the conversions.
-/

set_option autoImplicit false

namespace DumpKeeper.Conversion

open Except

/-- A setting refused for the reason `e`. -/
def refuse {α : Type} (e : ConfigError) : Except ConfigFailure α := error (.refused e)

/-- What `f` makes of `v`, if `v` can be shown. -/
def shown (v : Value) (f : Value → String) : Except ConfigFailure String :=
  if v.isShowable then ok (f v) else error (.broken .tooManyDigits)

/-- The value `v` refused for a reason `e` that shows it. -/
def refuseShown {α : Type} (v : Value) (e : String → ConfigError) : Except ConfigFailure α := do
  refuse (e (← shown v Value.quoted))

/-- The text `s` in lower case. -/
def lower (s : String) : String := String.ofList (Text.lowercase s.toList)

/-- The words for truth. -/
def trueWords : List String := ["true", "1", "yes", "on"]

/-- The words for falsehood. -/
def falseWords : List String := ["false", "0", "no", "off"]

/-- The truth value that the text `s` says, blanks around it and letter case aside. -/
def truthOfText? (s : String) : Option Bool :=
  let word := String.ofList (Text.lowercase (Text.trim s.toList))
  if trueWords.contains word then some true
  else if falseWords.contains word then some false
  else none

/-- The truth value `v`, or that of a text that says one.  What is refused is reported under
`name`. -/
def toTruth (name : String) (v : Value) : Except ConfigFailure Bool :=
  match v with
  | .bool b => ok b
  | _ => do
    match truthOfText? (← shown v Value.asText) with
    | some b => ok b
    | none => refuseShown v (.badTruth name)

/-- The whole number of `v`: truth values count as one and zero, fractions are cut off, texts and
bytes are read. -/
def wholeNumber (name : String) (v : Value) : Except ConfigFailure Int :=
  let reading (n : Option Int) : Except ConfigFailure Int :=
    match n with
    | some n => ok n
    | none => refuseShown v (.badCount name)
  match v with
  | .bool b => ok (if b then 1 else 0)
  | .int n => ok n
  | .float x =>
    match Binary64.truncate? x with
    | some n => ok n
    | none => if x.isNaN then refuseShown v (.badCount name) else error (.broken .outOfRange)
  | .text s => reading (Text.readInt 10 s.toList)
  | .bytes bs =>
    reading (if bs.all (· < 128) then Text.readInt 10 (bs.map fun b => Char.ofNat b.toNat)
      else none)
  | _ => refuseShown v (.badCount name)

/-- The whole number of `v`, which must not be negative. -/
def toCount (name : String) (v : Value) : Except ConfigFailure Int := do
  let n ← wholeNumber name v
  if n < 0 then refuse (.negative name) else ok n

/-- The number of a port that `v` gives. -/
def toPort (name : String) (v : Value) : Except ConfigFailure Int := do
  let n ← toCount name v
  if 0 < n ∧ n < 65536 then ok n else refuse (.badPort name)

/-- The duration that `v` spells; nothing spells none. -/
def readDuration (v : Value) : Except Duration.Error Duration :=
  match v with
  | .null => error .empty
  | _ => if v.isShowable then Duration.read v.quoted v.asText else error .tooManyDigits

/-- The duration that `v` spells, or a refusal that is reported under `name`. -/
def toDuration (name : String) (v : Value) : Except ConfigFailure Duration :=
  match readDuration v with
  | ok d => ok d
  | error .outOfRange => error (.broken .outOfRange)
  | error .tooManyDigits => error (.broken .tooManyDigits)
  | error e => refuse (.badDuration name e)

/-- The duration that `v` spells, which must be a second at least. -/
def toInterval (name : String) (v : Value) : Except ConfigFailure Duration := do
  let d ← toDuration name v
  if d.micros < microsPerSecond then refuse (.shortInterval name) else ok d

/-- The path that `v` is, which only a text can be. -/
def toPath (v : Value) : Except ConfigFailure FilePath :=
  match v with
  | .text s => ok (.ofString s)
  | _ => error (.broken .notAPath)

/-- What `toCount` gives is not negative. -/
theorem toCount_nonneg (name : String) (v : Value) (n : Int) (h : toCount name v = ok n) :
    0 ≤ n := by
  simp only [toCount, bind, Except.bind] at h
  split at h
  · cases h
  · split at h
    · cases h
    · cases h; omega

end DumpKeeper.Conversion
