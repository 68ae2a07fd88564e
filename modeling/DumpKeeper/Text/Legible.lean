import DumpKeeper.Text.Utf8

/-!
# Texts of files

The bytes of a file are taken in pieces.  When a piece turns out not to be UTF-8, what stands before
it is a text all the same.  How long a piece is depends on how many bytes the characters of the
piece before it take, since the characters are asked for in stretches.

* `unifyLineEnds` — a text with line ends of one kind.
* `Legible`, `Legible.ofBytes` — the text of a file, as far as it can be read.
-/

set_option autoImplicit false

namespace DumpKeeper.Text

/-- A text with every kind of line end written as one character. -/
def unifyLineEnds : List Char → List Char
  | [] => []
  | '\r' :: '\n' :: cs => '\n' :: unifyLineEnds cs
  | c :: cs => (if c = '\r' then '\n' else c) :: unifyLineEnds cs

/-- The characters of the first `count` bytes.  A line end of which the second half may follow does
not count yet. -/
def charactersOf (content : List UInt8) (count : Nat) : List Char :=
  let cs := (decodeWhile none 0 (content.take count)).1
  unifyLineEnds (if cs.getLast? == some '\r' then cs.dropLast else cs)

/-- The characters that are asked for together. -/
def stretch : Nat := 4096

/-- The bytes that are taken together at least. -/
def pieceSize : Nat := 8192

/-- The size of the piece behind one of `size` bytes, which have brought the number of characters
from `before` to `after`: as many bytes as the rest of a stretch would take at that rate. -/
def nextSize (size before after : Nat) : Nat :=
  max pieceSize (size * (stretch - after % stretch) / (after - before))

/-- The characters of the pieces before the one with the byte at `fault`, where `passed` bytes with
`known` characters are in the pieces so far and `size` is the size of the next one.  The first
argument bounds the number of pieces. -/
def beforeFault (content : List UInt8) (fault : Nat) : Nat → Nat → List Char → Nat → List Char
  | 0, _, known, _ => known
  | fuel + 1, passed, known, size =>
    let upTo := min (passed + size) content.length
    if fault < upTo ∨ upTo = passed then known
    else
      let cs := charactersOf content upTo
      beforeFault content fault fuel upTo cs (nextSize (upTo - passed) known.length cs.length)

/-- A text as far as it can be read, and whether that is the whole text. -/
structure Legible where
  text : List Char
  whole : Bool
  deriving DecidableEq, Repr

/-- The text of a file. -/
def Legible.ofBytes (content : List UInt8) : Legible :=
  match decodeWhile none 0 content with
  | (cs, none) => ⟨unifyLineEnds cs, true⟩
  | (_, some fault) =>
    ⟨beforeFault content fault (content.length / pieceSize + 1) 0 [] pieceSize, false⟩

end DumpKeeper.Text
