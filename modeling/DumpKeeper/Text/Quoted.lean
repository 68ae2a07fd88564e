import DumpKeeper.Text.Half
import DumpKeeper.Text.Hex
import DumpKeeper.Text.Printable

/-!
# Quoted text

Messages show a refused value between quotes.  Single quotes are used, unless the text holds a
single quote and no double one.  The quote in use and the backslash are written behind a backslash,
tabulation and the line ends have short escapes, and whatever has no printed form is written by its
code point.

* `quote` — the quotation mark that a text is put between.
* `quoted` — a text between quotes.
* `quotedBytes` — the same for a list of bytes, marked with a leading `b`.
-/

set_option autoImplicit false

namespace DumpKeeper.Text

/-- The quotation mark for a text. -/
def quote (cs : List Char) : Char :=
  if cs.contains '\'' && !cs.contains '"' then '"' else '\''

/-- A code point that has no printed form, in the shortest escape that holds it. -/
def escapeCode (n : Nat) : List Char :=
  if n < 0x100 then '\\' :: 'x' :: hexDigits 2 n
  else if n < 0x10000 then '\\' :: 'u' :: hexDigits 4 n
  else '\\' :: 'U' :: hexDigits 8 n

/-- The escapes that are the same for text and for bytes. -/
def escapeShort? (mark c : Char) : Option (List Char) :=
  if c = mark ∨ c = '\\' then some ['\\', c]
  else if c = '\t' then some ['\\', 't']
  else if c = '\n' then some ['\\', 'n']
  else if c = '\r' then some ['\\', 'r']
  else none

/-- One character of a quoted text. -/
def quotedChar (mark c : Char) : List Char :=
  match escapeShort? mark c with
  | some e => e
  | none => if isPrintable c then [c] else escapeCode (codeOf c)

/-- A text between quotes. -/
def quoted (s : String) : String :=
  let cs := s.toList
  let mark := quote cs
  String.ofList (mark :: cs.flatMap (quotedChar mark) ++ [mark])

/-- Bytes between quotes; a byte outside printable ASCII is written by its value. -/
def quotedBytes (bytes : List UInt8) : String :=
  let cs := bytes.map fun b => Char.ofNat b.toNat
  let mark := quote cs
  let one (c : Char) : List Char :=
    match escapeShort? mark c with
    | some e => e
    | none => if 32 ≤ c.toNat ∧ c.toNat < 127 then [c] else escapeCode c.toNat
  String.ofList ('b' :: mark :: cs.flatMap one ++ [mark])

end DumpKeeper.Text
