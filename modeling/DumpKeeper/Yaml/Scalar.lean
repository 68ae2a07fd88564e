import DumpKeeper.Text.Base64
import DumpKeeper.Text.Lowercase
import DumpKeeper.Text.Numeral
import DumpKeeper.Value
import DumpKeeper.Yaml.Tag

/-!
# Values of scalars

Each kind of scalar has its own way from a text to a value.  A tag can ask for a kind that the text
has not the look of, so every way can fail.

* `intValue`, `floatValue`, `timeValue` — numbers and points in time.
* `scalarValue` — the value of a scalar of any kind.
-/

set_option autoImplicit false

namespace DumpKeeper.Yaml

/-- A number in groups of sixty, the last group first. -/
def ofSixties (groups : List Int) : Int :=
  groups.foldr (fun d n => d + 60 * n) 0

/-- A whole number by its look: binary, hexadecimal, octal behind a zero, in sixties, decimal. -/
def intValue (s : String) : Except Fault Value := do
  let cs := s.toList.filter (· != '_')
  if cs.isEmpty then throw .emptyNumber
  let (negative, cs) := Text.sign cs
  let number ← match cs with
    | [] => throw .emptyNumber
    | ['0'] => pure (some 0)
    | '0' :: 'b' :: ds => pure (Text.readInt 2 ds)
    | '0' :: 'x' :: ds => pure (Text.readInt 16 ds)
    | '0' :: _ => pure (Text.readInt 8 cs)
    | _ =>
      if cs.contains ':' then
        pure (((cs.splitOn ':').mapM (Text.readInt 10)).map fun groups => ofSixties groups.reverse)
      else pure (Text.readInt 10 cs)
  match number with
  | some n => return .int (if negative then -n else n)
  | none => throw .notANumber

/-- The sum of groups of sixty, each with its weight, the last group first. -/
def floatOfSixties : List Float → Int → Float → Except Fault Float
  | [], _, total => .ok total
  | d :: rest, weight, total =>
    match Binary64.ofInt? weight with
    | some w => floatOfSixties rest (60 * weight) (total + d * w)
    | none => .error .numberTooLarge

/-- The value of `.nan`. -/
def notANumber : Float := 0 / 0

/-- Whether a text is `.nan`, whatever its sign and its letter case. -/
def isNaNName (s : String) : Bool :=
  (Text.sign (Text.lowercase (s.toList.filter (· != '_')))).2 == ".nan".toList

/-- A number with a point, infinite, not a number, or in sixties. -/
def floatValue (s : String) : Except Fault Value := do
  let cs := Text.lowercase (s.toList.filter (· != '_'))
  if cs.isEmpty then throw .emptyNumber
  let (negative, cs) := Text.sign cs
  let signed (x : Float) : Value := .float (if negative then -x else x)
  if cs = ".inf".toList then return signed (Float.ofScientific 1 false 400)
  else if cs = ".nan".toList then return .float notANumber
  else if cs.contains ':' then
    match (cs.splitOn ':').mapM Text.readFloat with
    | some groups => return signed (← floatOfSixties groups.reverse 1 0)
    | none => throw .notANumber
  else
    match Text.readFloat cs with
    | some x => return signed x
    | none => throw .notANumber

/-- The first six digits of a fraction, as microseconds. -/
def microsOf (fraction : List Char) : Nat :=
  let ds := fraction.take 6
  digitsValue (ds ++ List.replicate (6 - ds.length) '0')

/-- A point in time as written, unless no calendar or clock shows it. -/
def timeValue (m : Moment) : Except Fault Value := do
  let d : Date := ⟨m.year, m.month, m.day⟩
  match m.clock with
  | none => if d.isValid then return .date d else throw .impossibleTime
  | some (h, mi, s) =>
    let offset : Option Int := m.zone.map fun (sign, zh, zm) =>
      let n : Int := (zh * 3600 + zm * 60) * microsPerSecond
      if sign = some '-' then -n else n
    if microsPerDay ≤ (offset.getD 0).natAbs then throw .impossibleTime
    if d.isValid && h < 24 && mi < 60 && s < 60 then
      let wall := d.toDay * microsPerDay + (h * 3600 + mi * 60 + s) * microsPerSecond +
        microsOf m.fraction
      return .dateTime ⟨wall, offset⟩
    else throw .impossibleTime

/-- The value of a scalar of the given kind. -/
def scalarValue (tag : Tag) (s : String) : Except Fault Value :=
  match tag with
  | .null => .ok .null
  | .bool =>
    match truthWords.lookup (String.ofList (Text.lowercase s.toList)) with
    | some b => .ok (.bool b)
    | none => .error .unknownTruth
  | .int => intValue s
  | .float => floatValue s
  | .binary =>
    let cs := s.toList
    if cs.all fun c => c.toNat < 128 then
      match Text.decodeBase64? cs with
      | some bs => .ok (.bytes bs)
      | none => .error .malformed
    else .error .malformed
  | .timestamp =>
    match moment? (withoutLineEnd s.toList) with
    | some m => timeValue m
    | none => .error .notATimestamp
  | .text => .ok (.text s)
  | _ => .error .malformed

end DumpKeeper.Yaml
