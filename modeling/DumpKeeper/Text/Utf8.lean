/-!
# Text from bytes

Bytes that are meant to be UTF-8 need not be.  `decodeLossy` reads what can be read and puts one
replacement character for each piece that cannot: a byte that begins nothing, or the longest
beginning of a character that is not completed.

* `leadByte?`, `byteEffect` — what a first byte announces, and what any byte does.
* `decodeWhile` — the text of bytes as long as they are UTF-8.
* `decodeLossy` — the text of any bytes.
* `encode` — the bytes of a text.
-/

set_option autoImplicit false

namespace DumpKeeper.Text

/-- The bytes that follow a first byte: how many, between which bounds the next one lies, and the
bits that the first byte gives. -/
structure Lead where
  count : Nat
  low : Nat
  high : Nat
  bits : Nat
  deriving DecidableEq, Repr

/-- What a first byte above ASCII announces, `none` when it begins no character. -/
def leadByte? (b : Nat) : Option Lead :=
  if b < 0xc2 then none
  else if b < 0xe0 then some ⟨1, 0x80, 0xbf, b - 0xc0⟩
  else if b = 0xe0 then some ⟨2, 0xa0, 0xbf, 0⟩
  else if b = 0xed then some ⟨2, 0x80, 0x9f, 13⟩
  else if b < 0xf0 then some ⟨2, 0x80, 0xbf, b - 0xe0⟩
  else if b = 0xf0 then some ⟨3, 0x90, 0xbf, 0⟩
  else if b < 0xf4 then some ⟨3, 0x80, 0xbf, b - 0xf0⟩
  else if b = 0xf4 then some ⟨3, 0x80, 0x8f, 4⟩
  else none

/-- What a byte does: it completes a character, begins or goes on with one, or is out of place. -/
inductive ByteEffect where
  | done (c : Char)
  | part (l : Lead)
  | wrong
  deriving DecidableEq, Repr

/-- What a byte does behind the bytes of a character that is being read, if there is one. -/
def byteEffect : Option Lead → Nat → ByteEffect
  | none, n =>
    if n < 0x80 then .done (Char.ofNat n)
    else
      match leadByte? n with
      | some l => .part l
      | none => .wrong
  | some l, n =>
    if l.low ≤ n ∧ n ≤ l.high then
      let bits := 64 * l.bits + (n - 0x80)
      if l.count ≤ 1 then .done (Char.ofNat bits) else .part ⟨l.count - 1, 0x80, 0xbf, bits⟩
    else .wrong

/-- The characters that are complete, as long as the bytes are UTF-8, and the place of the byte that
shows that they are not.  A character that is not complete at the end shows it there.  `open?` holds
the character that is being read, and `place` counts the bytes before. -/
def decodeWhile : Option Lead → Nat → List UInt8 → List Char × Option Nat
  | open?, place, [] => ([], if open?.isSome then some place else none)
  | open?, place, b :: rest =>
    match byteEffect open? b.toNat with
    | .done c =>
      let (cs, fault) := decodeWhile none (place + 1) rest
      (c :: cs, fault)
    | .part l => decodeWhile (some l) (place + 1) rest
    | .wrong => ([], some place)

/-- The character that stands for what cannot be read. -/
def replacement : Char := '\ufffd'

/-- The text of bytes.  `open?` holds the character that is being read; a byte that does not go on
with it may begin another one. -/
def decodeFrom : Option Lead → List UInt8 → List Char
  | open?, [] => if open?.isSome then [replacement] else []
  | open?, b :: rest =>
    match byteEffect open? b.toNat with
    | .done c => c :: decodeFrom none rest
    | .part l => decodeFrom (some l) rest
    | .wrong =>
      if open?.isNone then replacement :: decodeFrom none rest
      else
        match byteEffect none b.toNat with
        | .done c => replacement :: c :: decodeFrom none rest
        | .part l => replacement :: decodeFrom (some l) rest
        | .wrong => replacement :: replacement :: decodeFrom none rest

/-- The text of bytes, with a replacement for each piece that is not UTF-8. -/
def decodeLossy (bytes : List UInt8) : List Char :=
  decodeFrom none bytes

/-- The bytes of a text. -/
def encode (s : String) : List UInt8 :=
  s.toUTF8.toList

end DumpKeeper.Text
