/-!
# Halves of characters

Where text is kept in units of sixteen bits, a character beyond the first 65536 takes two units, and
these have codes that no character has.  An escape can name such a code, so that a text can hold a
half of a character.  It is kept as a character at the end of the last plane, which is left to
private use.

* `ofCode`, `codeOf` — the character of a code, and its code again.
* `codeOf_ofCode` — no code is lost below the last plane.
-/

set_option autoImplicit false

namespace DumpKeeper.Text

/-- Whether a code is that of a half. -/
def isHalf (code : Nat) : Bool := 0xd800 ≤ code && code < 0xe000

/-- How far from its code a half is kept. -/
def halfShift : Nat := 0x100000

/-- The character of a code. -/
def ofCode (code : Nat) : Char :=
  Char.ofNat (if isHalf code then halfShift + code else code)

/-- The code of a character. -/
def codeOf (c : Char) : Nat :=
  if halfShift ≤ c.toNat && isHalf (c.toNat - halfShift) then c.toNat - halfShift else c.toNat

/-- The character of a code below the last plane has that code. -/
theorem codeOf_ofCode (code : Nat) (h : code < halfShift) : codeOf (ofCode code) = code := by
  have valid (n : Nat) (hn : n < 0xd800 ∨ 0xdfff < n ∧ n < 0x110000) :
      (Char.ofNat n).toNat = n := by
    have hv : n.isValidChar := hn
    rw [Char.ofNat, dif_pos hv]
    rfl
  have toNat_ofCode : (ofCode code).toNat = if isHalf code then halfShift + code else code := by
    unfold ofCode
    apply valid
    split <;> rename_i hc <;> simp only [isHalf, halfShift] at * <;>
      simp at hc <;> omega
  unfold codeOf
  rw [toNat_ofCode]
  cases hh : isHalf code
  · have hn : ¬ halfShift ≤ code := Nat.not_le.mpr h
    simp [hn]
  · rw [if_pos rfl, Nat.add_sub_cancel_left, hh, if_pos (by simp)]

end DumpKeeper.Text
