/-!
# Bytes written in base 64

Four characters of six bits each stand for three bytes.  Characters outside the alphabet are passed
over, and a text that breaks off inside a byte is refused.

* `sextet?` — the six bits of a character.
* `decodeBase64?` — the bytes of a text.
-/

set_option autoImplicit false

namespace DumpKeeper.Text

/-- The six bits of a character of the alphabet. -/
def sextet? (c : Char) : Option Nat :=
  if c.isUpper then some (c.toNat - 65)
  else if c.isLower then some (c.toNat - 71)
  else if c.isDigit then some (c.toNat + 4)
  else if c = '+' then some 62
  else if c = '/' then some 63
  else none

/-- The bytes of a text, `place` sextets into a group of four with `left` not yet written out.
`pads` counts the padding signs in a row; padding that completes a group ends the text. -/
def decodeSextets : List Char → Nat → Nat → Nat → Option (List UInt8)
  | [], place, _, _ => if place = 0 then some [] else none
  | c :: cs, place, left, pads =>
    if c = '=' then
      if 2 ≤ place then
        if 4 ≤ place + pads + 1 then some [] else decodeSextets cs place left (pads + 1)
      else decodeSextets cs place left pads
    else
      match sextet? c with
      | none => decodeSextets cs place left pads
      | some s =>
        match place with
        | 0 => decodeSextets cs 1 s 0
        | 1 => (decodeSextets cs 2 (s % 16) 0).map (UInt8.ofNat (left * 4 + s / 16) :: ·)
        | 2 => (decodeSextets cs 3 (s % 4) 0).map (UInt8.ofNat (left * 16 + s / 4) :: ·)
        | _ => (decodeSextets cs 0 0 0).map (UInt8.ofNat (left * 64 + s) :: ·)

/-- The bytes of a text in base 64. -/
def decodeBase64? (cs : List Char) : Option (List UInt8) :=
  decodeSextets cs 0 0 0

end DumpKeeper.Text
