import DumpKeeper.Decimal.Binary64
import DumpKeeper.Text.Blank
import DumpKeeper.Text.Digits

/-!
# Numbers written as text

A whole number may have blanks around it, a sign, and single underscores between its digits; it has
at most `digitLimit` digits when it is written in decimal.  A number with a point or an exponent
follows the same rules for blanks, sign and digits, and may also be infinite or not a number.

* `readInt` — a whole number in a base of 2, 8, 10 or 16.
* `readFloat` — a number with a point or an exponent.
-/

set_option autoImplicit false

namespace DumpKeeper.Text

/-- The blanks that may stand around a number. -/
def isNumeralBlank (c : Char) : Bool :=
  if c.toNat < 128 then c == ' ' || (9 ≤ c.toNat && c.toNat ≤ 13) else isBlank c

/-- A text without the blanks around a number. -/
def trimNumeral (cs : List Char) : List Char :=
  dropEndWhile isNumeralBlank (cs.dropWhile isNumeralBlank)

/-- Whether a sign says minus, and the text behind the sign. -/
def sign : List Char → Bool × List Char
  | '-' :: cs => (true, cs)
  | '+' :: cs => (false, cs)
  | cs => (false, cs)

/-- The value of a digit in a base: a decimal digit of any script, or a letter. -/
def baseDigit? (base : Nat) (c : Char) : Option Nat :=
  let d :=
    if c.isLower then some (c.toNat - 87)
    else if c.isUpper then some (c.toNat - 55)
    else digitValue? c
  d.bind fun d => if d < base then some d else none

/-- The letter that marks a base behind a zero. -/
def baseMark? : Nat → Option Char
  | 2 => some 'b'
  | 8 => some 'o'
  | 16 => some 'x'
  | _ => none

/-- A text without the mark of its base.  An underscore may follow the mark. -/
def dropBaseMark (base : Nat) (cs : List Char) : List Char :=
  match cs, baseMark? base with
  | '0' :: c :: rest, some mark =>
    if c.toLower = mark then
      match rest with
      | '_' :: d :: more => d :: more
      | _ => rest
    else cs
  | _, _ => cs

/-- Digits with single underscores between them. -/
def digitGroups? (base : Nat) : List Char → Option (List Nat)
  | [] => none
  | [c] => (baseDigit? base c).map ([·])
  | c :: '_' :: d :: rest => do
    let n ← baseDigit? base c
    let ns ← digitGroups? base (d :: rest)
    return n :: ns
  | c :: d :: rest => do
    let n ← baseDigit? base c
    let ns ← digitGroups? base (d :: rest)
    return n :: ns

/-- A whole number. -/
def readInt (base : Nat) (cs : List Char) : Option Int := do
  let (negative, cs) := sign (trimNumeral cs)
  let ds ← digitGroups? base (dropBaseMark base cs)
  if base = 10 ∧ digitLimit < ds.length then none
  let n := ds.foldl (fun n d => base * n + d) 0
  return if negative then -Int.ofNat n else Int.ofNat n

/-- The exponent of a number, zero if none is written. -/
def readExponent : List Char → Option Int
  | [] => some 0
  | e :: cs =>
    if e = 'e' ∨ e = 'E' then
      let (negative, ds) := sign cs
      if ds.isEmpty || !ds.all isDigit then none
      else
        let n : Int := natOfDigits (ds.filterMap digitValue?)
        some (if negative then -n else n)
    else none

/-- A text without its underscores, each of which must stand between two digits. -/
def joinDigits? : List Char → Option (List Char)
  | [] => some []
  | '_' :: _ => none
  | [c] => some [c]
  | c :: '_' :: d :: rest =>
    if isDigit c && isDigit d then (joinDigits? (d :: rest)).map (c :: ·) else none
  | c :: d :: rest => (joinDigits? (d :: rest)).map (c :: ·)

/-- The words for numbers that are not finite. -/
def infiniteWords : List String := ["inf", "infinity"]

/-- A number with a point or an exponent. -/
def readFloat (cs : List Char) : Option Float := do
  let (negative, cs) := sign (← joinDigits? (trimNumeral cs))
  let word := String.ofList (cs.map Char.toLower)
  let x ←
    if infiniteWords.contains word then some (Float.ofScientific 1 false 400)
    else if word = "nan" then some (0 / 0)
    else do
      let whole := cs.takeWhile isDigit
      let (fraction, rest) := match cs.dropWhile isDigit with
        | '.' :: more => (more.takeWhile isDigit, more.dropWhile isDigit)
        | rest => ([], rest)
      if whole.isEmpty && fraction.isEmpty then none
      let e ← readExponent rest
      let n := natOfDigits ((whole ++ fraction).filterMap digitValue?)
      some (Binary64.ofDecimal n (e - fraction.length))
  return if negative then -x else x

end DumpKeeper.Text
