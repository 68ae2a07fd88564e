import DumpKeeper.Text.Half
import DumpKeeper.Text.Hex
import DumpKeeper.Yaml.Token

/-!
# Scalars of a YAML document

A scalar is written plainly, between quotes, or as an indented block.  In all three a single line
break inside is folded into a space, except in literal blocks, and further breaks are kept.

Every function takes the place where its part begins and gives the text with the place behind it.
The first argument of a loop bounds its rounds.  Each round passes a character at least, so that any
number above that of the characters left is enough.

* `quotedScalar` — a text between single or double quotes.
* `blockScalar` — a literal or folded block.
* `plainScalar` — a text without marks.
-/

set_option autoImplicit false

namespace DumpKeeper.Yaml

/-! ## Quoted scalars -/

/-- The line breaks ahead, with the blanks around them.  A line that separates documents must not
be among them. -/
def quotedBreaks : Nat → Cursor → Except Fault (List Char × Cursor)
  | 0, c => .ok ([], c)
  | fuel + 1, c => do
    if c.atDocumentMarker then throw .malformed
    let c := c.skipWhile isSpaceOrTab
    if isBreak c.peek then
      let (b, c) := c.lineBreak
      let (bs, c) ← quotedBreaks fuel c
      return (b ++ bs, c)
    else return ([], c)

/-- The blanks inside a quoted scalar: kept within a line, folded around line breaks. -/
def quotedBlanks (fuel : Nat) (c : Cursor) : Except Fault (List Char × Cursor) := do
  let (blanks, c) := c.span isSpaceOrTab
  if c.rest.isEmpty then throw .unfinished
  if isBreak c.peek then
    let (b, c) := c.lineBreak
    let (bs, c) ← quotedBreaks fuel c
    if b != ['\n'] then return (b ++ bs, c)
    else if bs.isEmpty then return ([' '], c)
    else return (bs, c)
  else return (blanks, c)

/-- The escapes of one letter. -/
def escapeLetters : List (Char × Char) :=
  [('0', '\x00'), ('a', '\x07'), ('b', '\x08'), ('t', '\t'), ('\t', '\t'), ('n', '\n'),
   ('v', '\x0b'), ('f', '\x0c'), ('r', '\r'), ('e', '\x1b'), (' ', ' '), ('"', '"'), ('\\', '\\'),
   ('/', '/'), ('N', '\x85'), ('_', '\xa0'), ('L', '\u2028'), ('P', '\u2029')]

/-- The letters before a code point and the number of its digits. -/
def escapeWidths : List (Char × Nat) :=
  [('x', 2), ('u', 4), ('U', 8)]

/-- The character of a code point.  Half of a surrogate pair has no character of its own. -/
def characterOf (code : Nat) : Except Fault Char :=
  if Nat.pow 2 31 ≤ code then .error .characterTooLarge
  else if 0x110000 ≤ code then .error .noSuchCharacter
  else .ok (Text.ofCode code)

/-- What an escape stands for; the place is behind its backslash. -/
def escape (fuel : Nat) (c : Cursor) : Except Fault (List Char × Cursor) :=
  match escapeLetters.lookup c.peek with
  | some x => .ok ([x], c.next)
  | none =>
    match escapeWidths.lookup c.peek with
    | some width =>
      let c := c.next
      let digits := ((c.rest.take width).map Text.hexValue?).takeWhile Option.isSome
      if digits.length = width then do
        let x ← characterOf (digits.reduceOption.foldl (fun n d => 16 * n + d) 0)
        return ([x], c.skip width)
      else .error (c.skip digits.length).refusal
    | none =>
      if isBreak c.peek then
        let c := c.lineBreak.2
        quotedBreaks fuel c
      else .error c.refusal

/-- The text up to the next blank or the closing quote. -/
def quotedRun (double : Bool) : Nat → Cursor → Except Fault (List Char × Cursor)
  | 0, c => .ok ([], c)
  | fuel + 1, c => do
    let (cs, c) := c.span fun x => !(x == '\'' || x == '"' || x == '\\' || isGap x)
    let x := c.peek
    if !double && x == '\'' && c.peekAt 1 == '\'' then
      let (more, c) ← quotedRun double fuel (c.skip 2)
      return (cs ++ '\'' :: more, c)
    else if (double && x == '\'') || (!double && (x == '"' || x == '\\')) then
      let (more, c) ← quotedRun double fuel c.next
      return (cs ++ x :: more, c)
    else if double && x == '\\' then
      let (e, c) ← escape fuel c.next
      let (more, c) ← quotedRun double fuel c
      return (cs ++ e ++ more, c)
    else return (cs, c)

/-- Runs of text with blanks between them, up to the closing quote. -/
def quotedRest (double : Bool) : Nat → Cursor → Except Fault (List Char × Cursor)
  | 0, _ => .error .malformed
  | fuel + 1, c => do
    let (cs, c) ← quotedRun double fuel c
    if c.peek == (if double then '"' else '\'') then return (cs, c.next)
    let (blanks, c) ← quotedBlanks fuel c
    let (more, c) ← quotedRest double fuel c
    return (cs ++ blanks ++ more, c)

/-- The text of a quoted scalar; the place is at its opening quote. -/
def quotedScalar (fuel : Nat) (c : Cursor) : Except Fault (List Char × Cursor) :=
  quotedRest (c.peek == '"') fuel c.next

/-! ## Block scalars -/

/-- What becomes of the line breaks at the end of a block. -/
inductive Chomping where
  | strip
  | clip
  | keep
  deriving DecidableEq, Repr

/-- The mark for the line breaks at the end, if one is ahead. -/
def chompingMark? (c : Cursor) : Option Chomping :=
  if c.peek == '+' then some .keep else if c.peek == '-' then some .strip else none

/-- The digit for the indentation, if one is ahead. -/
def indentMark? (c : Cursor) : Option Nat :=
  if c.peek.isDigit then some (c.peek.toNat - 48) else none

/-- The two marks behind the sign of a block, in either order. -/
def blockMarks (c : Cursor) : Except Fault (Chomping × Option Nat × Cursor) := do
  let (chomping, increment, c) :=
    match chompingMark? c with
    | some chomping =>
      let c := c.next
      match indentMark? c with
      | some n => (chomping, some n, c.next)
      | none => (chomping, none, c)
    | none =>
      match indentMark? c with
      | some n =>
        let c := c.next
        match chompingMark? c with
        | some chomping => (chomping, some n, c.next)
        | none => (.clip, some n, c)
      | none => (.clip, none, c)
  if increment = some 0 then throw .malformed
  if !isSpaceOrLineEnd c.peek then throw .malformed
  return (chomping, increment, c)

/-- The breaks and spaces ahead: the breaks, and the deepest column that spaces lead to. -/
def blockLead : Nat → Cursor → List Char × Nat × Cursor
  | 0, c => ([], 0, c)
  | fuel + 1, c =>
    if c.peek == ' ' then
      let c := c.next
      let (bs, deepest, c') := blockLead fuel c
      (bs, max c.column deepest, c')
    else if isBreak c.peek then
      let (b, c) := c.lineBreak
      let (bs, deepest, c) := blockLead fuel c
      (b ++ bs, deepest, c)
    else ([], 0, c)

/-- The place behind the spaces ahead, `column` at the furthest. -/
def indentTo (column : Nat) (c : Cursor) : Cursor :=
  c.skip ((c.rest.take (column - c.column)).takeWhile (· == ' ')).length

/-- The breaks ahead, each with the indentation of the line behind it. -/
def blockBreaks (column : Nat) : Nat → Cursor → List Char × Cursor
  | 0, c => ([], c)
  | fuel + 1, c =>
    let c := indentTo column c
    if isBreak c.peek then
      let (b, c) := c.lineBreak
      let (bs, c) := blockBreaks column fuel c
      (b ++ bs, c)
    else ([], c)

/-- The lines of a block.  `breaks` are the empty lines above the next line. -/
def blockLines (folded : Bool) (column : Nat) (chomping : Chomping) :
    Nat → List Char → Cursor → List Char × Cursor
  | 0, _, c => ([], c)
  | fuel + 1, breaks, c =>
    let indented := isSpaceOrTab c.peek
    let (line, c) := c.span fun x => !isLineEnd x
    let (b, c) := c.lineBreak
    let (breaks', c) := blockBreaks column fuel c
    if c.column == column && c.peek != endMark then
      let joint :=
        if folded && b == ['\n'] && !indented && !isSpaceOrTab c.peek then
          if breaks'.isEmpty then [' '] else []
        else b
      let (more, c) := blockLines folded column chomping fuel breaks' c
      (breaks ++ line ++ joint ++ more, c)
    else
      let tail := match chomping with
        | .strip => []
        | .clip => b
        | .keep => b ++ breaks'
      (breaks ++ line ++ tail, c)

/-- The text of a block scalar inside a block at `indent`; the place is at its sign. -/
def blockScalar (fuel : Nat) (indent : Int) (c : Cursor) : Except Fault (List Char × Cursor) := do
  let folded := c.peek == '>'
  let (chomping, increment, c) ← blockMarks c.next
  let c ← c.endLine
  let least := max 1 (indent + 1).toNat
  let (breaks, column, c) :=
    match increment with
    | none =>
      let (bs, deepest, c) := blockLead fuel c
      (bs, max least deepest, c)
    | some n =>
      let column := least + n - 1
      let (bs, c) := blockBreaks column fuel c
      (bs, column, c)
  if c.column == column && c.peek != endMark then
    return blockLines folded column chomping fuel breaks c
  else
    return (if chomping = .keep then breaks else [], c)

/-! ## Plain scalars -/

/-- The breaks ahead, with the spaces between them; `none` when a line that separates documents
comes up, together with the place before that line. -/
def plainBreaks : Nat → Cursor → Option (List Char) × Cursor
  | 0, c => (some [], c)
  | fuel + 1, c =>
    if c.peek == ' ' then plainBreaks fuel c.next
    else if isBreak c.peek then
      let (b, c) := c.lineBreak
      if c.atDocumentMarker then (none, c)
      else
        let (bs, c) := plainBreaks fuel c
        (bs.map (b ++ ·), c)
    else (some [], c)

/-- The spaces inside a plain scalar, folded around line breaks, and whether there was a break.
Nothing is left of the spaces before a line that separates documents. -/
def plainSpaces (fuel : Nat) (c : Cursor) : List Char × Bool × Cursor :=
  let (spaces, c) := c.span (· == ' ')
  if isBreak c.peek then
    let (b, c) := c.lineBreak
    if c.atDocumentMarker then ([], true, c)
    else
      match plainBreaks fuel c with
      | (none, c) => ([], true, c)
      | (some bs, c) =>
        if b != ['\n'] then (b ++ bs, true, c)
        else if bs.isEmpty then ([' '], true, c)
        else (bs, true, c)
  else (spaces, false, c)

/-- The characters ahead that belong to a plain scalar. -/
def plainRun (inFlow : Bool) : List Char → List Char
  | [] => []
  | x :: rest =>
    let after := rest.headD endMark
    let closes (y : Char) : Bool := y == ',' || y == '[' || y == ']' || y == '\x7b' || y == '\x7d'
    if isGap x || (x == ':' && (isGap after || (inFlow && closes after))) ||
        (inFlow && (closes x || x == '?')) then []
    else x :: plainRun inFlow rest

/-- The rest of a plain scalar behind `spaces`.  `broken` says whether these held a line break. -/
def plainRest (inFlow : Bool) (indent : Int) :
    Nat → List Char → Bool → Cursor → List Char × Bool × Cursor
  | 0, _, broken, c => ([], broken, c)
  | fuel + 1, spaces, broken, c =>
    let run := if c.peek == '#' then [] else plainRun inFlow c.rest
    if run.isEmpty then ([], broken, c)
    else
      let (spaces', broken', c) := plainSpaces fuel (c.skip run.length)
      if spaces'.isEmpty || c.peek == '#' || (!inFlow && (c.column : Int) ≤ indent) then
        (spaces ++ run, broken', c)
      else
        let (more, broken'', c) := plainRest inFlow indent fuel spaces' broken' c
        (spaces ++ run ++ more, broken'', c)

/-- The text of a plain scalar, and whether a line was begun behind it. -/
def plainScalar (fuel : Nat) (inFlow : Bool) (indent : Int) (c : Cursor) :
    List Char × Bool × Cursor :=
  plainRest inFlow indent fuel [] false c

end DumpKeeper.Yaml
