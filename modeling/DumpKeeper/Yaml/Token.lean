/-!
# Tokens of a YAML document

The file format is YAML 1.1.  Its indentation and its one-line keys are resolved while the text is
cut into tokens, so that a token list already has the ends of blocks and the marks of keys in it.

* `Token` — the tokens.
* `Fault` — why a document has no value.
* `isBreak`, `isGap`, `isWordChar` — the character classes that the rules are written with.
* `Cursor` — a place in the text, with its line and column.
-/

set_option autoImplicit false

namespace DumpKeeper.Yaml

/-- A directive line above a document. -/
inductive Directive where
  | version (major : Nat)
  | tagHandle (handle expansion : String)
  | other
  deriving DecidableEq, Repr

/-- Why a document has no value. -/
inductive Fault where
  /-- The text breaks a rule of the format, or a value cannot be built as its tag says. -/
  | malformed
  /-- The text ends inside a token. -/
  | unfinished
  /-- The bytes of the text are not UTF-8. -/
  | notUtf8
  /-- A text tagged as a number is none, or has too many digits. -/
  | notANumber
  /-- A text tagged as a number is empty. -/
  | emptyNumber
  /-- A number does not fit. -/
  | numberTooLarge
  /-- A text tagged as a truth value is none. -/
  | unknownTruth
  /-- A text tagged as a point in time is none. -/
  | notATimestamp
  /-- A point in time is given as an entry of a mapping. -/
  | momentOfMapping
  /-- A date or a time of day that no calendar or clock shows. -/
  | impossibleTime
  /-- An escape names no character. -/
  | noSuchCharacter
  /-- An escape has a number that is too large even to be looked at. -/
  | characterTooLarge
  /-- Collections stand too deep inside one another, or a text is looked for in itself. -/
  | tooDeep
  deriving DecidableEq, Repr

/-- A token.  `key` and `value` stand before the two halves of a mapping entry, and `unreadable`
where the text cannot be read on. -/
inductive Token where
  | directive (d : Directive)
  | documentStart
  | documentEnd
  | streamEnd
  | blockSequenceStart
  | blockMappingStart
  | blockEnd
  | flowSequenceStart
  | flowSequenceEnd
  | flowMappingStart
  | flowMappingEnd
  | blockEntry
  | flowEntry
  | key
  | value
  | alias (name : String)
  | anchor (name : String)
  | tag (handle : Option String) (suffix : String)
  | scalar (text : String) (plain : Bool)
  | unreadable (f : Fault)
  deriving DecidableEq, Repr

/-! ## Character classes -/

/-- The character that stands for the end of the text; it cannot occur inside. -/
def endMark : Char := '\x00'

/-- A line break. -/
def isBreak (c : Char) : Bool :=
  c == '\n' || c == '\r' || c == '\x85' || c == '\u2028' || c == '\u2029'

/-- A line break or the end of the text. -/
def isLineEnd (c : Char) : Bool :=
  c == endMark || isBreak c

/-- A space, a line break or the end of the text. -/
def isSpaceOrLineEnd (c : Char) : Bool :=
  c == ' ' || isLineEnd c

/-- A space, a tabulation, a line break or the end of the text. -/
def isGap (c : Char) : Bool :=
  c == '\t' || isSpaceOrLineEnd c

/-- A space or a tabulation. -/
def isSpaceOrTab (c : Char) : Bool :=
  c == ' ' || c == '\t'

/-- A character of a name: ASCII letters and digits, hyphen and underscore. -/
def isWordChar (c : Char) : Bool :=
  c.isAlphanum || c == '-' || c == '_'

/-- A character that may stand for itself in the address of a tag. -/
def isAddressChar (c : Char) : Bool :=
  c.isAlphanum || "-;/?:@&=+$,_.!~*'()[]%".toList.contains c

/-- A character that a document may hold. -/
def isAllowed (c : Char) : Bool :=
  let n := c.toNat
  n == 9 || n == 10 || n == 13 || (0x20 ≤ n && n ≤ 0x7e) || n == 0x85 ||
    (0xa0 ≤ n && n ≤ 0xd7ff) || (0xe000 ≤ n && n ≤ 0xfffd) || 0x10000 ≤ n

/-! ## Places -/

/-- A place in a text: what is left of it, how many characters and lines are passed, and how far
into the line the place is. -/
structure Cursor where
  rest : List Char
  index : Nat
  line : Nat
  column : Nat
  deriving DecidableEq, Repr

namespace Cursor

/-- The beginning of a text. -/
def start (text : List Char) : Cursor := ⟨text, 0, 0, 0⟩

/-- The character `k` places ahead. -/
def peekAt (c : Cursor) (k : Nat) : Char := c.rest.getD k endMark

/-- The next character. -/
def peek (c : Cursor) : Char := c.rest.headD endMark

/-- What is wrong with the next character, if no rule allows it: it may be that there is none. -/
def refusal (c : Cursor) : Fault := if c.rest.isEmpty then .unfinished else .malformed

/-- The place one character on.  A byte order mark takes no room in its line. -/
def next (c : Cursor) : Cursor :=
  match c.rest with
  | [] => c
  | x :: rest =>
    if isBreak x && !(x == '\r' && rest.headD endMark == '\n') then
      ⟨rest, c.index + 1, c.line + 1, 0⟩
    else if x == '\ufeff' then ⟨rest, c.index + 1, c.line, c.column⟩
    else ⟨rest, c.index + 1, c.line, c.column + 1⟩

/-- The place `n` characters on. -/
def skip : Nat → Cursor → Cursor
  | 0, c => c
  | n + 1, c => skip n c.next

/-- The characters ahead that satisfy `p`, and the place behind them. -/
def span (c : Cursor) (p : Char → Bool) : List Char × Cursor :=
  let cs := c.rest.takeWhile p
  (cs, c.skip cs.length)

/-- The place behind the characters that satisfy `p`. -/
def skipWhile (c : Cursor) (p : Char → Bool) : Cursor :=
  (c.span p).2

/-- The place behind a line break, and the break as it is kept in a text; nothing when no break is
ahead. -/
def lineBreak (c : Cursor) : List Char × Cursor :=
  let x := c.peek
  if x == '\r' || x == '\n' || x == '\x85' then
    (['\n'], c.skip (if x == '\r' && c.peekAt 1 == '\n' then 2 else 1))
  else if x == '\u2028' || x == '\u2029' then ([x], c.next)
  else ([], c)

/-- Whether the three characters ahead are `c` and a gap follows. -/
def atMarker (c : Cursor) (x : Char) : Bool :=
  c.peek == x && c.peekAt 1 == x && c.peekAt 2 == x && isGap (c.peekAt 3)

/-- Whether a line that begins or ends a document is ahead. -/
def atDocumentMarker (c : Cursor) : Bool :=
  c.atMarker '-' || c.atMarker '.'

/-- The place behind a comment, if one is ahead. -/
def skipComment (c : Cursor) : Cursor :=
  if c.peek == '#' then c.skipWhile fun x => !isLineEnd x else c

/-- The beginning of the next line, when only spaces and a comment are left on this one. -/
def endLine (c : Cursor) : Except Fault Cursor :=
  let c := (c.skipWhile (· == ' ')).skipComment
  if isLineEnd c.peek then .ok c.lineBreak.2 else .error .malformed

end Cursor

end DumpKeeper.Yaml
