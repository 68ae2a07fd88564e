import DumpKeeper.Duration
import DumpKeeper.Text.Blank
import DumpKeeper.Text.Digits
import DumpKeeper.Text.Quoted

/-!
# Reading durations

A duration is written as groups of an amount and a unit, such as `1h30m` or `2 weeks 3 d`, with
blanks allowed around and inside the groups; a lone `0` is the duration zero.  The lengths of the
groups are added up in seconds, and every sum is kept to 53 significant binary digits.  Seconds are
counted in steps of `2 ^ -62`, fine enough to hold a thousandth of a second as it is rounded.

* `Duration.Unit`, `Duration.Unit.named?` — the units and their spellings.
* `Duration.Group`, `Duration.nextGroup?` — an amount with its unit as written, and how the next
  group is taken off a text.
* `Duration.Error` — why a text is no duration.
* `Duration.parse` — the duration that a text spells.
-/

set_option autoImplicit false

namespace DumpKeeper.Duration

open DumpKeeper.Text

/-- The units of time. -/
inductive Unit where
  | millisecond
  | second
  | minute
  | hour
  | day
  | week
  deriving DecidableEq, Repr

/-- The spellings of the units, in lower case. -/
def Unit.spellings : List (String × Unit) :=
  [("ms", .millisecond), ("msec", .millisecond), ("millis", .millisecond),
   ("s", .second), ("sec", .second), ("secs", .second), ("second", .second), ("seconds", .second),
   ("m", .minute), ("min", .minute), ("mins", .minute), ("minute", .minute), ("minutes", .minute),
   ("h", .hour), ("hr", .hour), ("hrs", .hour), ("hour", .hour), ("hours", .hour),
   ("d", .day), ("day", .day), ("days", .day),
   ("w", .week), ("week", .week), ("weeks", .week)]

/-- The unit that goes by `name`, in letters of either case. -/
def Unit.named? (name : List Char) : Option Unit :=
  Unit.spellings.lookup (String.ofList (name.map Char.toLower))

/-- The seconds of a unit; a millisecond is less than one. -/
def Unit.seconds? : Unit → Option Nat
  | .millisecond => none
  | .second => some 1
  | .minute => some 60
  | .hour => some 3600
  | .day => some 86400
  | .week => some 604800

/-- Why a text is no duration.  `shown` is the refused value as a message shows it. -/
inductive Error where
  /-- There is nothing but blanks. -/
  | empty
  /-- Something other than groups is there. -/
  | malformed (shown : String)
  /-- A group has a unit that no unit is named by. -/
  | unknownUnit (unit : String) (shown : String)
  /-- The duration, or one group of it, is out of range. -/
  | outOfRange
  /-- An amount has more digits than numbers may have. -/
  | tooManyDigits
  deriving DecidableEq, Repr

/-- The wording of an error, for those that have one. -/
def Error.message : Error → String
  | .empty => "Duration must not be empty"
  | .malformed shown => "Invalid duration: " ++ shown
  | .unknownUnit unit shown => "Unknown time unit " ++ quoted unit ++ " in duration " ++ shown
  | .outOfRange => ""
  | .tooManyDigits => ""

/-! ## Groups -/

/-- Whether `c` is an ASCII letter. -/
def isLetter (c : Char) : Bool :=
  c.isAlpha

/-- An amount and a unit as they are written. -/
structure Group where
  digits : List Char
  unit : List Char
  deriving DecidableEq, Repr

/-- The group at the beginning of the text `cs` and the text behind it: digits, blanks, letters.
Digits and letters are taken as long as they go on. -/
def nextGroup? (cs : List Char) : Option (Group × List Char) :=
  let digits := cs.takeWhile isDigit
  let behind := (cs.dropWhile isDigit).dropWhile isBlank
  let unit := behind.takeWhile isLetter
  if digits.isEmpty || unit.isEmpty then none
  else some (⟨digits, unit⟩, behind.dropWhile isLetter)

theorem length_dropWhile_le {α : Type} (p : α → Bool) (l : List α) :
    (l.dropWhile p).length ≤ l.length :=
  (List.dropWhile_sublist p).length_le

/-- What is behind a group is shorter than the text `cs`. -/
theorem nextGroup?_length (cs rest : List Char) (g : Group)
    (h : nextGroup? cs = some (g, rest)) : rest.length < cs.length := by
  simp only [nextGroup?] at h
  split at h
  · exact absurd h (by simp)
  · rename_i hne
    simp only [Option.some.injEq, Prod.mk.injEq] at h
    obtain ⟨-, rfl⟩ := h
    have h1 := length_dropWhile_le isLetter ((cs.dropWhile isDigit).dropWhile isBlank)
    have h2 := length_dropWhile_le isBlank (cs.dropWhile isDigit)
    have h3 := congrArg List.length (List.takeWhile_append_dropWhile (p := isDigit) (l := cs))
    rw [List.length_append] at h3
    have h4 : (cs.takeWhile isDigit).length ≠ 0 := by
      intro h0
      simp [List.length_eq_zero_iff.1 h0] at hne
    omega

/-! ## Lengths -/

/-- The steps of a second. -/
abbrev stepsPerSecond : Nat := Nat.pow 2 62

/-- A thousandth of a second in steps, rounded to 53 significant binary digits. -/
abbrev millisecondSteps : Nat := 4611686018427388

/-- The length of the group `g`, in steps; `shown` is the whole text, as errors quote it. -/
def Group.steps (shown : String) (g : Group) : Except Error Nat :=
  match Unit.named? g.unit with
  | none => .error (.unknownUnit (String.ofList g.unit) shown)
  | some unit =>
    if digitLimit < g.digits.length then .error .tooManyDigits
    else
      let amount := natOfDigits (g.digits.filterMap digitValue?)
      match unit.seconds? with
      | some factor =>
        if Binary64.fits (amount * factor) then
          .ok (Binary64.keep53 (amount * factor) * stepsPerSecond)
        else .error .outOfRange
      | none =>
        if Binary64.fits amount then
          .ok (Binary64.keep53 (Binary64.keep53 amount * millisecondSteps))
        else .error .outOfRange

/-- The microseconds of a length of `n` steps.  The fraction of a second is scaled with 53
significant digits and rounded, ties to even. -/
def microsOfSteps (n : Nat) : Nat :=
  n / stepsPerSecond * microsPerSecond +
    Binary64.roundDiv (Binary64.keep53 (n % stepsPerSecond * microsPerSecond)) stepsPerSecond

/-- The duration of `n` steps, unless it is out of range. -/
def ofSteps? (n : Nat) : Option Duration := ofMicros? (microsOfSteps n)

/-- The sum of the groups of the text `cs`, added to `total`, the steps so far. -/
def sumGroups (shown : String) (total : Nat) (cs : List Char) : Except Error Nat :=
  let text := cs.dropWhile isBlank
  if text.isEmpty then .ok total
  else
    match _h : nextGroup? text with
    | none => .error (.malformed shown)
    | some (g, rest) =>
      match g.steps shown with
      | .error e => .error e
      | .ok n => sumGroups shown (Binary64.keep53 (total + n)) rest
  termination_by cs.length
  decreasing_by
    have h1 := nextGroup?_length _ _ _ _h
    have h2 : text.length ≤ cs.length := length_dropWhile_le isBlank cs
    omega

/-- The duration that a text spells; `shown` is the text as messages show it. -/
def read (shown : String) (text : String) : Except Error Duration :=
  let cs := trim text.toList
  if cs.isEmpty then .error .empty
  else if cs = ['0'] then .ok ⟨0⟩
  else
    match sumGroups shown 0 cs with
    | .error e => .error e
    | .ok n =>
      match ofSteps? n with
      | some d => .ok d
      | none => .error .outOfRange

/-- A length in steps is not negative. -/
theorem nonneg_of_ofSteps? {n : Nat} {d : Duration} (h : ofSteps? n = some d) : 0 ≤ d.micros := by
  rw [ofSteps?, ofMicros?, Option.ite_none_right_eq_some] at h
  rw [← Option.some.inj h.2]
  exact Int.natCast_nonneg _

/-- What is read off a sum of groups, however a duration is made of it.  It is not said of
`ofSteps?` alone, whose bound is too large to be counted up to. -/
theorem of_sum {make : Nat → Option Duration} {P : Duration → Prop}
    (hmake : ∀ n d, make n = some d → P d) {sum : Except Error Nat} {d : Duration}
    (h : (match sum with
      | .error e => .error e
      | .ok n =>
        match make n with
        | some d => .ok d
        | none => .error .outOfRange : Except Error Duration) = .ok d) : P d := by
  split at h
  · cases h
  · split at h
    · rename_i hd
      cases h
      exact hmake _ _ hd
    · cases h

/-- A duration that is read is not negative. -/
theorem nonneg_of_read {shown text : String} {d : Duration} (h : read shown text = .ok d) :
    0 ≤ d.micros := by
  rw [read] at h
  split at h
  · cases h
  · split at h
    · cases h
      exact Int.le_refl 0
    · exact @of_sum ofSteps? _ (fun _ _ => nonneg_of_ofSteps?) _ _ h

/-- The duration that `text` spells. -/
def parse (text : String) : Except Error Duration :=
  read (quoted text) text

end DumpKeeper.Duration
