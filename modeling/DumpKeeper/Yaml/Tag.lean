import DumpKeeper.Yaml.Token

/-!
# Kinds of scalars

A scalar without a tag is a text, unless it is written plainly and has the look of something else:
a truth value, a number, a date, nothing at all, or one of the two keys with a meaning of their own.
These looks are fixed by the format and are tried in a fixed order.

* `Tag` — the kinds of nodes, and tags that mean nothing here.
* `Tag.ofAddress` — the kind that a tag names.
* `Tag.ofPlain` — the kind of a plain scalar.
* `Moment`, `moment?` — a date with a time of day as it is written.
-/

set_option autoImplicit false

namespace DumpKeeper.Yaml

/-- The kind of a node. -/
inductive Tag where
  | null
  | bool
  | int
  | float
  | binary
  | timestamp
  | text
  | sequence
  | mapping
  | orderedPairs
  | set
  | merge
  | default
  | unknown
  deriving DecidableEq, Inhabited, Repr

/-- What the addresses of the known kinds begin with. -/
def standardAddress : String := "tag:yaml.org,2002:"

/-- The kinds with a name below the standard address. -/
def Tag.names : List (String × Tag) :=
  [("null", .null), ("bool", .bool), ("int", .int), ("float", .float), ("binary", .binary),
   ("timestamp", .timestamp), ("str", .text), ("seq", .sequence), ("map", .mapping),
   ("omap", .orderedPairs), ("pairs", .orderedPairs), ("set", .set), ("merge", .merge),
   ("value", .default)]

/-- The kind that a tag names. -/
def Tag.ofAddress (address : String) : Tag :=
  ((Tag.names.find? fun n => standardAddress ++ n.1 == address).map (·.2)).getD .unknown

/-! ## Looks of plain scalars -/

/-- A decimal digit. -/
def isDigitOrBar (c : Char) : Bool := c.isDigit || c == '_'

/-- A text without its sign, if it has one. -/
def unsigned : List Char → List Char
  | '+' :: cs => cs
  | '-' :: cs => cs
  | cs => cs

/-- The groups of one or two digits, below sixty, that colons lead to.  Gives what follows the last
of at least `least` groups. -/
def sixtieths : Nat → Nat → List Char → Option (List Char)
  | 0, _, _ => none
  | fuel + 1, least, cs =>
    match cs with
    | ':' :: a :: b :: rest =>
      if '0' ≤ a && a ≤ '5' && b.isDigit then sixtieths fuel (least - 1) rest
      else if a.isDigit then sixtieths fuel (least - 1) (b :: rest)
      else if least = 0 then some cs else none
    | [':', a] => if a.isDigit then sixtieths fuel (least - 1) []
        else if least = 0 then some cs else none
    | _ => if least = 0 then some cs else none

/-- The look of a whole number: binary, octal, decimal, hexadecimal, or in sixties. -/
def looksInt (cs : List Char) : Bool :=
  let body := unsigned cs
  let sixties (ds : List Char) : Bool :=
    sixtieths (ds.length + 1) 1 (ds.dropWhile isDigitOrBar) == some []
  match body with
  | ['0'] => true
  | '0' :: 'b' :: ds => !ds.isEmpty && ds.all fun c => c == '0' || c == '1' || c == '_'
  | '0' :: 'x' :: ds =>
    !ds.isEmpty && ds.all fun c => isDigitOrBar c || ('a' ≤ c && c ≤ 'f') || ('A' ≤ c && c ≤ 'F')
  | '0' :: ds => !ds.isEmpty && ds.all fun c => ('0' ≤ c && c ≤ '7') || c == '_'
  | d :: ds => d.isDigit && (ds.all isDigitOrBar || sixties ds)
  | [] => false

/-- The look of an exponent, or of none. -/
def looksExponent : List Char → Bool
  | [] => true
  | e :: s :: ds =>
    (e == 'e' || e == 'E') && (s == '+' || s == '-') && !ds.isEmpty && ds.all Char.isDigit
  | _ => false

/-- The look of a number with a point: decimal, in sixties, infinite or not a number. -/
def looksFloat (cs : List Char) : Bool :=
  let body := unsigned cs
  let fraction (ds : List Char) : Bool := looksExponent (ds.dropWhile isDigitOrBar)
  let named (words : List String) (ds : List Char) : Bool := words.any fun w => w.toList == ds
  match body with
  | '.' :: ds =>
    named ["inf", "Inf", "INF"] ds ||
      (cs.headD endMark == '.' &&
        (named ["nan", "NaN", "NAN"] ds || ((ds.headD endMark).isDigit && fraction ds)))
  | d :: ds =>
    d.isDigit &&
      match ds.dropWhile isDigitOrBar with
      | '.' :: more => fraction more
      | more =>
        match sixtieths (more.length + 1) 1 more with
        | some ('.' :: last) => last.all isDigitOrBar
        | _ => false
  | [] => false

/-- A date, and a time of day if there is one, as written.  `zone` is `none` without one, and an
empty sign stands for UTC. -/
structure Moment where
  year : Nat
  month : Nat
  day : Nat
  clock : Option (Nat × Nat × Nat)
  fraction : List Char
  zone : Option (Option Char × Nat × Nat)
  deriving DecidableEq, Repr

/-- The value of ASCII digits. -/
def digitsValue (ds : List Char) : Nat :=
  ds.foldl (fun n d => 10 * n + (d.toNat - 48)) 0

/-- Between `least` and `most` digits and what follows them. -/
def digits? (least most : Nat) (cs : List Char) : Option (List Char × List Char) :=
  let ds := (cs.take most).takeWhile Char.isDigit
  if least ≤ ds.length then some (ds, cs.drop ds.length) else none

/-- What follows a character. -/
def after? (c : Char) : List Char → Option (List Char)
  | x :: rest => if x = c then some rest else none
  | [] => none

/-- A zone of hours and minutes behind its sign. -/
def signedZone? (sign : Char) (cs : List Char) : Option (Option Char × Nat × Nat) := do
  let (h, cs) ← digits? 1 2 cs
  match cs with
  | [] => some (some sign, digitsValue h, 0)
  | ':' :: cs =>
    let (m, cs) ← digits? 2 2 cs
    if cs.isEmpty then some (some sign, digitsValue h, digitsValue m) else none
  | _ => none

/-- A zone, behind blanks; nothing at all is no zone. -/
def zone? (cs : List Char) : Option (Option (Option Char × Nat × Nat)) :=
  match cs with
  | [] => some none
  | _ =>
    match cs.dropWhile isSpaceOrTab with
    | ['Z'] => some (some (none, 0, 0))
    | '+' :: rest => (signedZone? '+' rest).map some
    | '-' :: rest => (signedZone? '-' rest).map some
    | _ => none

/-- A date with hyphens and, behind a `T` or blanks, a time of day with colons. -/
def moment? (cs : List Char) : Option Moment := do
  let (y, cs) ← digits? 4 4 cs
  let (mo, cs) ← digits? 1 2 (← after? '-' cs)
  let (d, cs) ← digits? 1 2 (← after? '-' cs)
  let date : Moment := ⟨digitsValue y, digitsValue mo, digitsValue d, none, [], none⟩
  if cs.isEmpty then return date
  let behind ← match cs with
    | 'T' :: rest => some rest
    | 't' :: rest => some rest
    | c :: rest => if isSpaceOrTab c then some (rest.dropWhile isSpaceOrTab) else none
    | [] => none
  let (h, cs) ← digits? 1 2 behind
  let (mi, cs) ← digits? 2 2 (← after? ':' cs)
  let (s, cs) ← digits? 2 2 (← after? ':' cs)
  let (fraction, cs) := match cs with
    | '.' :: rest => (rest.takeWhile Char.isDigit, rest.dropWhile Char.isDigit)
    | _ => ([], cs)
  let zone ← zone? cs
  return { date with
    clock := some (digitsValue h, digitsValue mi, digitsValue s)
    fraction := fraction
    zone := zone }

/-- The look of a date alone, or of a point in time.  A date alone has both its short parts
in two digits. -/
def looksTimestamp (cs : List Char) : Bool :=
  match moment? cs with
  | some m => m.clock.isSome || cs.length == 10
  | none => false

/-- The words for truth values, in lower case. -/
def truthWords : List (String × Bool) :=
  [("yes", true), ("no", false), ("true", true), ("false", false), ("on", true), ("off", false)]

/-- The look of a truth value: a word in lower case, in capitals, or with a capital. -/
def looksBool (cs : List Char) : Bool :=
  truthWords.any fun (w, _) =>
    let w := w.toList
    cs == w || cs == w.map Char.toUpper || cs == (w.take 1).map Char.toUpper ++ w.drop 1

/-- A text without the line break at its end, if there is one. -/
def withoutLineEnd (cs : List Char) : List Char :=
  if cs.getLast? == some '\n' then cs.dropLast else cs

/-- The kind of a plain scalar, by its look.  A line break at the end does not count, unless there
is nothing else. -/
def Tag.ofPlain (s : String) : Tag :=
  let cs := if s = "\n" then s.toList else withoutLineEnd s.toList
  if looksBool cs then .bool
  else if looksFloat cs then .float
  else if looksInt cs then .int
  else if cs = "<<".toList then .merge
  else if ["~", "null", "Null", "NULL", ""].any fun w => cs == w.toList then .null
  else if looksTimestamp cs then .timestamp
  else if cs = "=".toList then .default
  else if ["!", "&", "*"].any fun w => cs == w.toList then .unknown
  else .text

end DumpKeeper.Yaml
