import DumpKeeper.Text.Half
import DumpKeeper.Text.Hex

/-!
# Texts and mappings in JSON

* `jsonText` — a text between double quotes, in ASCII characters only.
* `jsonObject` — a mapping whose values are written already.
-/

set_option autoImplicit false

namespace DumpKeeper.Text

/-- A number of sixteen bits as an escape. -/
def jsonUnit (n : Nat) : List Char := '\\' :: 'u' :: hexDigits 4 n

/-- A character outside ASCII as the escapes of its sixteen-bit units. -/
def jsonEscape (n : Nat) : List Char :=
  if n < 0x10000 then jsonUnit n
  else jsonUnit (0xd800 + (n - 0x10000) / 0x400) ++ jsonUnit (0xdc00 + (n - 0x10000) % 0x400)

/-- One character of a text. -/
def jsonChar (c : Char) : List Char :=
  if c = '"' ∨ c = '\\' then ['\\', c]
  else if c = '\n' then ['\\', 'n']
  else if c = '\r' then ['\\', 'r']
  else if c = '\t' then ['\\', 't']
  else if c = '\x08' then ['\\', 'b']
  else if c = '\x0c' then ['\\', 'f']
  else if 0x20 ≤ c.toNat ∧ c.toNat < 0x7f then [c]
  else jsonEscape (codeOf c)

/-- A text between double quotes. -/
def jsonText (s : String) : String :=
  String.ofList ('"' :: s.toList.flatMap jsonChar ++ ['"'])

/-- A mapping, with `comma` between its entries and `colon` within each. -/
def jsonObject (comma colon : String) (entries : List (String × String)) : String :=
  "\x7b" ++ comma.intercalate (entries.map fun e => jsonText e.1 ++ colon ++ e.2) ++ "\x7d"

end DumpKeeper.Text
