import DumpKeeper.Proofs.Characters
import DumpKeeper.Url
import Mathlib.Tactic.SplitIfs

/-!
# Escapes

The value of a parameter may be any text, and a query has room for a few characters only.  So a
value is written byte by byte: a character that does no harm stands for itself, a plus sign for a
space, and whatever is left goes as a percent sign and two digits.  There are many ways to write a
value, and they all read the same.

* `Text.decodeLossy_utf8` — the bytes of a text are read as that text, and nothing is replaced.
* `WritesByte`, `Writes` — the ways to write a byte, and a text.
* `unescapeField_of_writes` — whichever way a text is written, it is read back.
* `escaped`, `writes_escaped` — one of the ways, so that every text can be written.
-/

set_option autoImplicit false

namespace DumpKeeper

/-! ## Bytes of characters -/

namespace Text

/-- The byte of the number `n`, if it is one. -/
theorem toNat_byte {n : Nat} (h : n < 256) : (UInt8.ofNat n).toNat = n := by
  rw [UInt8.toNat_ofNat', Nat.mod_eq_of_lt h]

theorem decodeFrom_done {l? : Option Lead} {b : Nat} {c : Char} (hb : b < 256)
    (h : byteEffect l? b = .done c) (rest : List UInt8) :
    decodeFrom l? (UInt8.ofNat b :: rest) = c :: decodeFrom none rest := by
  rw [decodeFrom, toNat_byte hb, h]

theorem decodeFrom_part {l? : Option Lead} {b : Nat} {l : Lead} (hb : b < 256)
    (h : byteEffect l? b = .part l) (rest : List UInt8) :
    decodeFrom l? (UInt8.ofNat b :: rest) = decodeFrom (some l) rest := by
  rw [decodeFrom, toNat_byte hb, h]

/-- The last byte of a character, read by `decodeFrom`. -/
theorem decodeFrom_last {low high bits d : Nat} (hd : d < 64) (hlow : low ≤ d + 0x80)
    (hhigh : d + 0x80 ≤ high) (rest : List UInt8) :
    decodeFrom (some ⟨1, low, high, bits⟩) (UInt8.ofNat (d + 0x80) :: rest) =
      Char.ofNat (64 * bits + d) :: decodeFrom none rest := by
  refine decodeFrom_done (by omega) ?_ rest
  rw [byteEffect, if_pos ⟨hlow, hhigh⟩]
  simp only [Nat.add_sub_cancel]
  rfl

/-- A byte of a character that is not the last one, read by `decodeFrom`. -/
theorem decodeFrom_next {count low high bits d : Nat} (hd : d < 64) (hlow : low ≤ d + 0x80)
    (hhigh : d + 0x80 ≤ high) (rest : List UInt8) :
    decodeFrom (some ⟨count + 2, low, high, bits⟩) (UInt8.ofNat (d + 0x80) :: rest) =
      decodeFrom (some ⟨count + 1, 0x80, 0xbf, 64 * bits + d⟩) rest := by
  refine decodeFrom_part (by omega) ?_ rest
  rw [byteEffect, if_pos ⟨hlow, hhigh⟩]
  simp only [Nat.add_sub_cancel]
  rfl

theorem decodeFrom_lead {b : Nat} {l : Lead} (hb : b < 256) (hhigh : 0x80 ≤ b)
    (h : leadByte? b = some l) (rest : List UInt8) :
    decodeFrom none (UInt8.ofNat b :: rest) = decodeFrom (some l) rest := by
  refine decodeFrom_part hb ?_ rest
  rw [byteEffect, if_neg (by omega), h]

theorem leadByte?_two {d : Nat} (h : 2 ≤ d) (hd : d < 32) :
    leadByte? (d + 0xc0) = some ⟨1, 0x80, 0xbf, d⟩ := by
  rw [leadByte?, if_neg (by omega), if_pos (by omega), Nat.add_sub_cancel]

/-- The byte behind the first of three lies in the bounds of `leadByte?`, which leave out short
characters and halves. -/
theorem leadByte?_three {d e : Nat} (hd : d < 16) (he : e < 64) (hshort : 0x20 ≤ 64 * d + e)
    (hhalf : 64 * d + e < 0x360 ∨ 0x37f < 64 * d + e) :
    ∃ low high, leadByte? (d + 0xe0) = some ⟨2, low, high, d⟩ ∧ low ≤ e + 0x80 ∧
      e + 0x80 ≤ high := by
  rw [leadByte?]
  simp only [Nat.add_sub_cancel]
  split_ifs
  · omega
  · omega
  · exact ⟨_, _, by rw [show d = 0 by omega], by omega, by omega⟩
  · exact ⟨_, _, by rw [show d = 13 by omega], by omega, by omega⟩
  · exact ⟨_, _, rfl, by omega, by omega⟩
  all_goals omega

theorem leadByte?_four {d e : Nat} (hd : d < 8) (he : e < 64) (hshort : 0x10 ≤ 64 * d + e)
    (hlong : 64 * d + e < 0x110) :
    ∃ low high, leadByte? (d + 0xf0) = some ⟨3, low, high, d⟩ ∧ low ≤ e + 0x80 ∧
      e + 0x80 ≤ high := by
  rw [leadByte?]
  simp only [Nat.add_sub_cancel]
  split_ifs
  any_goals omega
  · exact ⟨_, _, by rw [show d = 0 by omega], by omega, by omega⟩
  · exact ⟨_, _, rfl, by omega, by omega⟩
  · exact ⟨_, _, by rw [show d = 4 by omega], by omega, by omega⟩

theorem decodeFrom_char (c : Char) (rest : List UInt8) :
    decodeFrom none (String.utf8EncodeChar c ++ rest) = c :: decodeFrom none rest := by
  have hvalid : c.val.toNat < 0xd800 ∨ 0xdfff < c.val.toNat ∧ c.val.toNat < 0x110000 := c.valid
  have hc : Char.ofNat c.val.toNat = c := Char.ofNat_toNat c
  rw [String.utf8EncodeChar]
  generalize c.val.toNat = v at *
  split_ifs with hone htwo hthree
  · exact decodeFrom_done (by omega) (by rw [byteEffect, if_pos (by omega), hc]) rest
  · have hlead := leadByte?_two (d := v / 64 % 0x20) (by omega) (by omega)
    have hsum : 64 * (v / 64 % 0x20) + v % 0x40 = v := by omega
    refine (decodeFrom_lead (by omega) (by omega) hlead _).trans ?_
    refine (decodeFrom_last (by omega) (by omega) (by omega) _).trans ?_
    rw [hsum, hc]
    rfl
  · obtain ⟨low, high, hlead, hlow, hhigh⟩ := leadByte?_three (d := v / 4096 % 0x10)
      (e := v / 64 % 0x40) (by omega) (by omega) (by omega) (by omega)
    have hsum : 64 * (64 * (v / 4096 % 0x10) + v / 64 % 0x40) + v % 0x40 = v := by omega
    refine (decodeFrom_lead (by omega) (by omega) hlead _).trans ?_
    refine (decodeFrom_next (by omega) hlow hhigh _).trans ?_
    refine (decodeFrom_last (by omega) (by omega) (by omega) _).trans ?_
    rw [hsum, hc]
    rfl
  · obtain ⟨low, high, hlead, hlow, hhigh⟩ := leadByte?_four (d := v / 262144 % 0x08)
      (e := v / 4096 % 0x40) (by omega) (by omega) (by omega) (by omega)
    have hsum : 64 * (64 * (64 * (v / 262144 % 0x08) + v / 4096 % 0x40) + v / 64 % 0x40) +
        v % 0x40 = v := by omega
    refine (decodeFrom_lead (by omega) (by omega) hlead _).trans ?_
    refine (decodeFrom_next (by omega) hlow hhigh _).trans ?_
    refine (decodeFrom_next (by omega) (by omega) (by omega) _).trans ?_
    refine (decodeFrom_last (by omega) (by omega) (by omega) _).trans ?_
    rw [hsum, hc]
    rfl

/-- The bytes of a text in UTF-8. -/
def utf8 (cs : List Char) : List UInt8 := cs.flatMap String.utf8EncodeChar

/-- **The bytes of a text are read as that text** by `decodeLossy`. -/
theorem decodeLossy_utf8 (cs : List Char) : decodeLossy (utf8 cs) = cs := by
  rw [decodeLossy]
  induction cs with
  | nil => rfl
  | cons c cs ih => rw [utf8, List.flatMap_cons, decodeFrom_char, ← utf8, ih]

end Text

open Text

/-! ## Ways to write a text -/

/-- The marks that may stand for themselves in the value of a parameter. -/
def queryMarks : List Char := "-._~!$\x27()*,;=:@/?".toList

/-- Whether `c` may stand for itself in the value of a parameter. -/
def isQueryChar (c : Char) : Bool := isPlain queryMarks c

/-- A byte is written by some characters. -/
inductive WritesByte : List Char → UInt8 → Prop
  /-- A character stands for itself. -/
  | plain {c : Char} (h : isQueryChar c = true) : WritesByte [c] (UInt8.ofNat c.toNat)
  /-- A plus sign stands for a space. -/
  | plus : WritesByte ['+'] 32
  /-- A percent sign and two digits, in either case, stand for any byte. -/
  | escape {d e : Char} {high low : Nat} (hd : hexValue? d = some high)
      (he : hexValue? e = some low) : WritesByte ['%', d, e] (UInt8.ofNat (16 * high + low))

/-- Bytes are written by some characters, one byte after the other. -/
inductive Writes : List Char → List UInt8 → Prop
  | nil : Writes [] []
  | cons {cs rest : List Char} {b : UInt8} {bs : List UInt8} (first : WritesByte cs b)
      (more : Writes rest bs) : Writes (cs ++ rest) (b :: bs)

/-- The character `c`, which stands for itself, is an ASCII character without a meaning of its
own. -/
theorem of_isQueryChar {c : Char} (h : isQueryChar c = true) :
    c.toNat < 128 ∧ 32 < c.toNat ∧ c ≠ '%' ∧ c ≠ '+' ∧ c ≠ '&' ∧ c ≠ '#' :=
  of_isPlain (P := fun c => 32 < c.toNat ∧ c ≠ '%' ∧ c ≠ '+' ∧ c ≠ '&' ∧ c ≠ '#')
    (by decide +kernel) (by decide +kernel) h

/-- So is a digit, for which there is a `hexValue?`. -/
theorem of_hexValue? {c : Char} {n : Nat} (h : hexValue? c = some n) :
    c.toNat < 128 ∧ 32 < c.toNat ∧ c ≠ '+' ∧ c ≠ '&' ∧ c ≠ '#' := by
  have hascii : c.toNat < 128 := by
    rw [hexValue?] at h
    split_ifs at h with hd hl hu
    · exact Nat.lt_of_le_of_lt hd.2 (by decide)
    · exact Nat.lt_of_le_of_lt hl.2 (by decide)
    · exact Nat.lt_of_le_of_lt hu.2 (by decide)
  exact ⟨hascii, forall_ascii (P := fun c => (hexValue? c).isSome = true → 32 < c.toNat ∧
    c ≠ '+' ∧ c ≠ '&' ∧ c ≠ '#') (by decide +kernel) hascii (Option.isSome_of_eq_some h)⟩

/-- What is written, `cs`, has neither blanks nor controls, and none of the marks that end a
value. -/
theorem of_mem_of_writes {cs : List Char} {bs : List UInt8} (h : Writes cs bs) :
    ∀ c ∈ cs, c.toNat < 128 ∧ 32 < c.toNat ∧ c ≠ '&' ∧ c ≠ '#' := by
  induction h with
  | nil => exact fun _ hc => absurd hc List.not_mem_nil
  | cons first more ih =>
    intro c hc
    rcases List.mem_append.1 hc with hc | hc
    · cases first with
      | plain hplain =>
        obtain rfl := List.mem_singleton.1 hc
        obtain ⟨hascii, hvisible, -, -, hand, hhash⟩ := of_isQueryChar hplain
        exact ⟨hascii, hvisible, hand, hhash⟩
      | plus =>
        obtain rfl := List.mem_singleton.1 hc
        decide
      | escape hd he =>
        obtain ⟨hascii, hvisible, -, hand, hhash⟩ := of_hexValue? hd
        obtain ⟨hascii', hvisible', -, hand', hhash'⟩ := of_hexValue? he
        simp only [List.mem_cons, List.not_mem_nil, or_false] at hc
        rcases hc with rfl | rfl | rfl
        · decide
        · exact ⟨hascii, hvisible, hand, hhash⟩
        · exact ⟨hascii', hvisible', hand', hhash'⟩
    · exact ih c hc

/-! ## Reading -/

/-- The characters that `cs` mean once plus signs are spaces. -/
def spaced (cs : List Char) : List Char := cs.map fun c => if c = '+' then ' ' else c

/-- Any character `c` but a percent sign is read by itself. -/
theorem unescapedBytes_cons {c : Char} (h : c ≠ '%') (rest : List Char) :
    unescapedBytes (c :: rest) = UInt8.ofNat c.toNat :: unescapedBytes rest := by
  rcases rest with _ | ⟨d, _ | ⟨e, rest⟩⟩
  · rfl
  · rfl
  · rw [unescapedBytes, if_neg h]

theorem unescapedBytes_escape {d e : Char} {high low : Nat} (hd : hexValue? d = some high)
    (he : hexValue? e = some low) (rest : List Char) :
    unescapedBytes ('%' :: d :: e :: rest) =
      UInt8.ofNat (16 * high + low) :: unescapedBytes rest := by
  rw [unescapedBytes, if_pos rfl, hd, he]

theorem unescapedBytes_of_writesByte {cs : List Char} {b : UInt8} (h : WritesByte cs b)
    (rest : List Char) : unescapedBytes (spaced cs ++ rest) = b :: unescapedBytes rest := by
  cases h with
  | @plain c hplain =>
    obtain ⟨-, -, hpercent, hplus, -⟩ := of_isQueryChar hplain
    rw [spaced, List.map_singleton, if_neg hplus, List.singleton_append,
      unescapedBytes_cons hpercent]
  | plus => exact unescapedBytes_cons (by decide) rest
  | @escape d e _ _ hd he =>
    have hspaced : spaced ['%', d, e] = ['%', d, e] := by
      simp [spaced, (of_hexValue? hd).2.2.1, (of_hexValue? he).2.2.1]
    rw [hspaced]
    exact unescapedBytes_escape hd he rest

theorem unescapedBytes_of_writes {cs : List Char} {bs : List UInt8} (h : Writes cs bs) :
    unescapedBytes (spaced cs) = bs := by
  induction h with
  | nil => rfl
  | cons first more ih =>
    rw [spaced, List.map_append]
    refine (unescapedBytes_of_writesByte first _).trans ?_
    rw [← spaced, ih]

/-- The ASCII text `cs` is read in one stretch. -/
theorem unescapeFrom_of_ascii {cs : List Char} (h : ∀ c ∈ cs, c.toNat < 128) (run : List Char) :
    unescapeFrom run cs = decodeLossy (unescapedBytes (run.reverse ++ cs)) := by
  induction cs generalizing run with
  | nil => rw [unescapeFrom, List.append_nil]
  | cons c cs ih =>
    obtain ⟨hc, hcs⟩ := List.forall_mem_cons.1 h
    rw [unescapeFrom, if_pos hc, ih hcs, List.reverse_cons, List.append_assoc,
      List.singleton_append]

theorem spaced_ascii {cs : List Char} (h : ∀ c ∈ cs, c.toNat < 128) :
    ∀ c ∈ spaced cs, c.toNat < 128 := by
  intro c hc
  obtain ⟨d, hd, rfl⟩ := List.mem_map.1 hc
  split_ifs
  · decide
  · exact h d hd

/-- **Whichever way `value` is written, `unescapeField` reads it back.** -/
theorem unescapeField_of_writes {cs : List Char} {value : String}
    (h : Writes cs (utf8 value.toList)) : unescapeField cs = value := by
  have hascii := spaced_ascii fun c hc => (of_mem_of_writes h c hc).1
  rw [unescapeField, unescape]
  change String.ofList (unescapeFrom [] (spaced cs)) = value
  rw [unescapeFrom_of_ascii hascii, List.reverse_nil, List.nil_append, unescapedBytes_of_writes h,
    decodeLossy_utf8, String.ofList_toList]

example : unescapeField "eu+%c3%BC".toList = "eu ü" := by decide +kernel

/-- A `value` that says something is not written as nothing, and the other way round. -/
theorem eq_nil_iff_of_writes {cs : List Char} {value : String}
    (h : Writes cs (utf8 value.toList)) : cs = [] ↔ value = "" := by
  constructor
  · rintro rfl
    rw [← unescapeField_of_writes h]
    rfl
  · rintro rfl
    cases h
    rfl

/-! ## One way to write a text -/

/-- The number `n`, below sixteen, as a digit. -/
def hexDigit (n : Nat) : Char := Char.ofNat (if n < 10 then 48 + n else 55 + n)

/-- How the byte `b` goes into a query: letters, digits and four marks stand for themselves, and all
else goes as two digits. -/
def escapedByte (b : UInt8) : List Char :=
  let c := Char.ofNat b.toNat
  if isPlain ['-', '.', '_', '~'] c then [c]
  else ['%', hexDigit (b.toNat / 16), hexDigit (b.toNat % 16)]

/-- The text `value` as it stands in a query. -/
def escaped (value : String) : List Char := (utf8 value.toList).flatMap escapedByte

theorem writesByte_escapedByte (b : UInt8) : WritesByte (escapedByte b) b := by
  have hdigit : ∀ n < 16, hexValue? (hexDigit n) = some n := by decide +kernel
  have hb : b.toNat < 256 := b.toNat_lt
  rw [escapedByte]
  split_ifs with h
  · have hplain : ∀ n < 256, isPlain ['-', '.', '_', '~'] (Char.ofNat n) = true →
        isQueryChar (Char.ofNat n) = true ∧ (Char.ofNat n).toNat = n := by decide +kernel
    obtain ⟨hquery, hn⟩ := hplain b.toNat hb h
    have hwrites := WritesByte.plain hquery
    rwa [hn, UInt8.ofNat_toNat] at hwrites
  · have hwrites := WritesByte.escape (hdigit (b.toNat / 16) (by omega))
      (hdigit (b.toNat % 16) (by omega))
    rwa [Nat.div_add_mod, UInt8.ofNat_toNat] at hwrites

theorem writes_flatMap (bs : List UInt8) : Writes (bs.flatMap escapedByte) bs := by
  induction bs with
  | nil => exact .nil
  | cons b bs ih => exact .cons (writesByte_escapedByte b) ih

/-- **Every text can be written**, for one as `escaped` writes it. -/
theorem writes_escaped (value : String) : Writes (escaped value) (utf8 value.toList) :=
  writes_flatMap _

end DumpKeeper
