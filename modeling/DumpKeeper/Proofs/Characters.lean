import DumpKeeper.Text.Blank

/-!
# Kinds and runs of characters

Texts are read from left to right, in runs of characters of one kind.  A run ends where a character
of another kind stands, or at the end of the text.

* `Text.forall_ascii` — what is settled character by character below 128.
* `Text.isPlain` — letters, digits and some marks, which lie there.
* `Text.takeWhile_append_eq` — a run in front of a text is taken off as a whole.
-/

set_option autoImplicit false

namespace DumpKeeper.Text

/-- What `P` says of all ASCII characters holds of `c` if it is one. -/
theorem forall_ascii {P : Char → Prop} (h : ∀ n < 128, P (Char.ofNat n)) {c : Char}
    (hc : c.toNat < 128) : P c := by
  rw [← Char.ofNat_toNat c]
  exact h c.toNat hc

/-- Letters and digits, as `Char.isAlphanum` knows them, are ASCII characters. -/
theorem toNat_lt_of_isAlphanum {c : Char} (h : c.isAlphanum = true) : c.toNat < 128 := by
  change ((c.isUpper || c.isLower) || c.isDigit) = true at h
  rw [Bool.or_eq_true, Bool.or_eq_true] at h
  rcases h with (h | h) | h
  · have hle : c.val ≤ 'Z'.val := (of_decide_eq_true h).2
    exact Nat.lt_of_le_of_lt hle (by decide)
  · have hle : c.val ≤ 'z'.val := of_decide_eq_true (Bool.and_eq_true_iff.1 h).2
    exact Nat.lt_of_le_of_lt hle (by decide)
  · have hle : c.val ≤ '9'.val := of_decide_eq_true (Bool.and_eq_true_iff.1 h).2
    exact Nat.lt_of_le_of_lt hle (by decide)

/-- Whether `c` is a letter, a digit or one of `marks`. -/
def isPlain (marks : List Char) (c : Char) : Bool := c.isAlphanum || marks.contains c

/-- Where `marks` are ASCII characters, so are all characters for which `isPlain` is true, and what
is so for these is settled one by one. -/
theorem of_isPlain {marks : List Char} {P : Char → Prop}
    (hmarks : marks.all (·.toNat < 128) = true)
    (hP : ∀ n < 128, isPlain marks (Char.ofNat n) = true → P (Char.ofNat n)) {c : Char}
    (h : isPlain marks c = true) : c.toNat < 128 ∧ P c := by
  have hascii : c.toNat < 128 := by
    rw [isPlain, Bool.or_eq_true] at h
    rcases h with h | h
    · exact toNat_lt_of_isAlphanum h
    · exact of_decide_eq_true (List.all_eq_true.1 hmarks c (List.contains_iff_mem.1 h))
  exact ⟨hascii, forall_ascii (P := fun c => isPlain marks c = true → P c) hP hascii h⟩

variable {p : Char → Bool} {l r : List Char}

/-- The characters of `l`, all of the kind `p`, are taken up to the first one of another kind. -/
theorem takeWhile_append_eq (hl : ∀ c ∈ l, p c = true) (hr : ∀ c ∈ r.head?, p c = false) :
    (l ++ r).takeWhile p = l ∧ (l ++ r).dropWhile p = r := by
  rw [List.takeWhile_append_of_pos hl, List.dropWhile_append_of_pos hl]
  cases r with
  | nil => simp
  | cons c r => simp [hr c rfl]

end DumpKeeper.Text
