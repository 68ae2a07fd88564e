import DumpKeeper.Text.Legible
import DumpKeeper.Yaml.Token.Property
import DumpKeeper.Yaml.Token.Scalar

/-!
# Cutting a YAML document into tokens

Whether a token is the key of a mapping shows only when the colon behind it is met.  So each token
that could be a key is remembered, by the depth of flow collections around it, and the mark of the
key is put before it later.  A key must be on one line and at most 1024 characters long; at the
margin of a block nothing else than a key may stand.

* `Lexer` — the place in the text, the open blocks, the remembered keys and the tokens so far.
* `Lexer.step` — one token, with the marks that belong to it.
* `Lexer.settled` — the tokens before which no mark can be put any more.
* `tokens` — the tokens of a text, up to the place where it cannot be read on.
-/

set_option autoImplicit false

namespace DumpKeeper.Yaml

/-- A token that could be a key: its number, whether it must be one, and where it stands. -/
structure Candidate where
  number : Nat
  required : Bool
  index : Nat
  line : Nat
  column : Nat
  deriving DecidableEq, Repr

/-- What is known in the middle of a text. -/
structure Lexer where
  cursor : Cursor
  /-- Why the text cannot be read beyond its end, if there is more of it. -/
  beyond : Option Fault
  /-- A number above that of all characters, which bounds every loop. -/
  bound : Nat
  /-- The number of flow collections around the place. -/
  depth : Nat := 0
  /-- The column of the innermost block, `-1` outside of all. -/
  indent : Int := -1
  /-- The columns of the blocks around it. -/
  outer : List Int := []
  /-- Whether a key may begin here. -/
  keyAllowed : Bool := true
  /-- The remembered keys, by depth. -/
  candidates : List (Nat × Candidate) := []
  /-- The tokens so far, the last one first, and how many they are. -/
  tokens : List Token := []
  count : Nat := 0
  deriving Repr

namespace Lexer

/-- One more token at the end. -/
def push (s : Lexer) (t : Token) : Lexer :=
  { s with tokens := t :: s.tokens, count := s.count + 1 }

/-- One more token before the token of a number. -/
def insertAt (s : Lexer) (number : Nat) (t : Token) : Lexer :=
  let behind := s.count - number
  { s with tokens := s.tokens.take behind ++ t :: s.tokens.drop behind, count := s.count + 1 }

/-- The place moved on by `n` characters. -/
def advance (s : Lexer) (n : Nat) : Lexer :=
  { s with cursor := s.cursor.skip n }

/-- Whether the place has left the line of a remembered key, or is too far behind it. -/
def isStale (s : Lexer) (k : Candidate) : Bool :=
  k.line != s.cursor.line || 1024 < s.cursor.index - k.index

/-- The remembered keys that the place is still on the line of. -/
def dropStale (s : Lexer) : Except Fault Lexer :=
  if s.candidates.any fun k => s.isStale k.2 && k.2.required then .error .malformed
  else .ok { s with candidates := s.candidates.filter fun k => !s.isStale k.2 }

/-- The remembered key of the present depth forgotten; it must not be one that is required. -/
def forget (s : Lexer) : Except Fault Lexer :=
  match s.candidates.lookup s.depth with
  | some k =>
    if k.required then .error .malformed
    else .ok { s with candidates := s.candidates.filter (·.1 != s.depth) }
  | none => .ok s

/-- The next token remembered as a key, if a key may begin here. -/
def remember (s : Lexer) : Except Fault Lexer :=
  if s.keyAllowed then do
    let c := s.cursor
    let required := s.depth == 0 && s.indent == c.column
    let s ← s.forget
    return { s with
      candidates := (s.depth, ⟨s.count, required, c.index, c.line, c.column⟩) ::
        s.candidates }
  else .ok s

/-- The ends of all blocks that are further to the right than `column`. -/
def closeBlocks (column : Int) (s : Lexer) : Lexer :=
  if s.depth ≠ 0 then s
  else
    let closed := (s.indent :: s.outer).takeWhile (column < ·)
    match (s.indent :: s.outer).drop closed.length with
    | indent :: outer =>
      { s with
        indent := indent
        outer := outer
        tokens := List.replicate closed.length .blockEnd ++ s.tokens
        count := s.count + closed.length }
    | [] => s

/-- A block opened at `column`, and whether it is a new one. -/
def openBlock (column : Nat) (s : Lexer) : Bool × Lexer :=
  if s.indent < column then
    (true, { s with indent := column, outer := s.indent :: s.outer })
  else (false, s)

/-- A block of the given kind opened at the present place, outside of flow collections. -/
def startBlock (kind : Token) (s : Lexer) : Except Fault Lexer :=
  if s.depth ≠ 0 then .ok s
  else if !s.keyAllowed then .error .malformed
  else
    let (new, s) := s.openBlock s.cursor.column
    .ok (if new then s.push kind else s)

/-- The place behind blanks, comments and empty lines.  At the beginning of a line a key may
begin. -/
def skipBlank : Nat → Lexer → Lexer
  | 0, s => s
  | fuel + 1, s =>
    let c := (s.cursor.skipWhile (· == ' ')).skipComment
    if isBreak c.peek then
      skipBlank fuel
        { s with cursor := c.lineBreak.2, keyAllowed := s.keyAllowed || s.depth == 0 }
    else { s with cursor := c }

/-- A mark of a document, or the first step of a directive: all blocks end. -/
def outermost (s : Lexer) : Except Fault Lexer := do
  let s ← (s.closeBlocks (-1)).forget
  return { s with keyAllowed := false }

/-- A token that may be a key: it is remembered, and no key may begin directly behind it. -/
def keyLike (s : Lexer) : Except Fault Lexer := do
  let s ← s.remember
  return { s with keyAllowed := false }

/-- A `:` behind a key or in place of one. -/
def valueMark (s : Lexer) : Except Fault Lexer := do
  match s.candidates.lookup s.depth with
  | some k =>
    let s := { s with candidates := s.candidates.filter (·.1 != s.depth) }
    let s := s.insertAt k.number .key
    let (new, s) := if s.depth = 0 then s.openBlock k.column else (false, s)
    let s := if new then s.insertAt k.number .blockMappingStart else s
    return ({ s with keyAllowed := false }.advance 1).push .value
  | none =>
    let s ← s.startBlock .blockMappingStart
    let s ← { s with keyAllowed := s.depth == 0 }.forget
    return (s.advance 1).push .value

/-- Whether a plain scalar begins here. -/
def atPlain (s : Lexer) : Bool :=
  let x := s.cursor.peek
  let sign := "-?:,[]\x7b\x7d#&*!|>'\"%@`".toList.contains x
  !(isGap x || sign) ||
    (!isGap (s.cursor.peekAt 1) && (x == '-' || (s.depth == 0 && (x == '?' || x == ':'))))

/-- One token, with the marks that belong to it; the place is at its first character. -/
def token (s : Lexer) : Except Fault Lexer := do
  let c := s.cursor
  let x := c.peek
  let gap := s.depth != 0 || isGap (c.peekAt 1)
  if x == '%' && c.column == 0 then
    let s ← s.outermost
    let (t, c) ← directive s.cursor
    return { s with cursor := c }.push t
  else if c.column == 0 && c.atMarker '-' then
    return ((← s.outermost).advance 3).push .documentStart
  else if c.column == 0 && c.atMarker '.' then
    return ((← s.outermost).advance 3).push .documentEnd
  else if x == '[' || x == '\x7b' then
    let s ← s.remember
    return ({ s with depth := s.depth + 1, keyAllowed := true }.advance 1).push
      (if x == '[' then .flowSequenceStart else .flowMappingStart)
  else if x == ']' || x == '\x7d' then
    let s ← s.forget
    return ({ s with depth := s.depth - 1, keyAllowed := false }.advance 1).push
      (if x == ']' then .flowSequenceEnd else .flowMappingEnd)
  else if x == ',' then
    let s ← { s with keyAllowed := true }.forget
    return (s.advance 1).push .flowEntry
  else if x == '-' && isGap (c.peekAt 1) then
    let s ← s.startBlock .blockSequenceStart
    let s ← { s with keyAllowed := true }.forget
    return (s.advance 1).push .blockEntry
  else if x == '?' && gap then
    let s ← s.startBlock .blockMappingStart
    let s ← { s with keyAllowed := s.depth == 0 }.forget
    return (s.advance 1).push .key
  else if x == ':' && gap then s.valueMark
  else if x == '*' || x == '&' then
    let s ← s.keyLike
    let (name, c) ← anchorName s.cursor
    return { s with cursor := c }.push (if x == '*' then .alias name else .anchor name)
  else if x == '!' then
    let s ← s.keyLike
    let (t, c) ← tagProperty s.cursor
    return { s with cursor := c }.push t
  else if (x == '|' || x == '>') && s.depth == 0 then
    let s ← { s with keyAllowed := true }.forget
    let (cs, c) ← blockScalar s.bound s.indent s.cursor
    return { s with cursor := c }.push (.scalar (String.ofList cs) false)
  else if x == '\'' || x == '"' then
    let s ← s.keyLike
    let (cs, c) ← quotedScalar s.bound s.cursor
    return { s with cursor := c }.push (.scalar (String.ofList cs) false)
  else if s.atPlain then
    let s ← s.keyLike
    let (cs, broken, c) := plainScalar s.bound (s.depth != 0) s.indent s.cursor
    return { s with cursor := c, keyAllowed := broken }.push (.scalar (String.ofList cs) true)
  else throw .malformed

/-- Nothing may be wanted beyond the end of a text that goes on there. -/
def checkEnd (s : Lexer) : Except Fault Unit :=
  if s.beyond.isSome && s.cursor.rest.isEmpty then .error .unfinished else .ok ()

/-- The state behind the next token, or `none` with the tokens when the text has ended. -/
def step (s : Lexer) : Except Fault (Lexer ⊕ List Token) := do
  let s := s.skipBlank s.bound
  s.checkEnd
  let s ← s.dropStale
  let s := s.closeBlocks s.cursor.column
  if s.cursor.rest.isEmpty then
    let s ← s.outermost
    return .inr (s.push .streamEnd).tokens.reverse
  else
    let s ← s.token
    s.checkEnd
    return .inl s

/-- The tokens that are settled at a place: all that stand before the first one that could still
turn out to be a key. -/
def settled (s : Lexer) : List Token :=
  let unsettled := s.candidates.filter fun k => !s.isStale k.2
  let number := unsettled.foldl (fun n k => min n k.2.number) s.count
  (s.tokens.drop (s.count - number)).reverse

/-- The settled tokens, behind which the text cannot be read on. -/
def stopped (s : Lexer) (f : Fault) : List Token :=
  s.settled ++ [.unreadable (if f = .unfinished then s.beyond.getD .malformed else f)]

/-- The tokens of what is left of a text.  Each step passes a character at least. -/
def run : Nat → Lexer → List Token
  | 0, s => s.stopped .malformed
  | fuel + 1, s =>
    match s.step with
    | .error f => s.stopped f
    | .ok (.inr ts) => ts
    | .ok (.inl s) => run fuel s

/-- The tokens of a text of allowed characters, and what stops the reading beyond its end.  A byte
order mark at the beginning is passed over. -/
def runText (text : List Char) (beyond : Option Fault) : List Token :=
  let c := Cursor.start text
  let bound := text.length + 1
  let s : Lexer :=
    { cursor := if c.peek == '\ufeff' then c.next else c, beyond := beyond, bound := bound }
  s.run bound

end Lexer

/-- The characters that are looked at together before any token is cut. -/
def firstStretch : Nat := 2 * Text.stretch

/-- Where the stretch begins that the character of an index is part of. -/
def stretchStart (index : Nat) : Nat :=
  if index < firstStretch then 0
  else index - (index - firstStretch) % Text.stretch

/-- The tokens of a text.  A stretch that is not complete because of a piece that is not UTF-8, or
that has a character that is not allowed, cannot be read. -/
def tokens (t : Text.Legible) : List Token :=
  let text := if t.whole then t.text else t.text.take (stretchStart t.text.length)
  match text.findIdx? fun c => !isAllowed c with
  | some index => Lexer.runText (text.take (stretchStart index)) (some .malformed)
  | none => Lexer.runText text (if t.whole then none else some .notUtf8)

end DumpKeeper.Yaml
