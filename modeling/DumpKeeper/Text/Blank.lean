/-!
# Blank characters

Settings reach the program with blanks around them, and a duration may have blanks inside.  What
counts as blank is decided once, here: the characters that Unicode calls white space together with
the four information separators below the space.

* `isBlank` — the test on one character.
* `trim`, `trimEnd` — a text without the blanks at both ends, or at its end.
* `isBlank_getLast_trimEnd` — what is left by `trimEnd` does not end in a blank.
-/

set_option autoImplicit false

namespace DumpKeeper.Text

/-- A character that separates words: the ASCII controls from tabulation to carriage return, the
information separators, the space, and the wider spaces of Unicode. -/
def isBlank (c : Char) : Bool :=
  let n := c.toNat
  (9 ≤ n && n ≤ 13) || (28 ≤ n && n ≤ 32) || n == 0x85 || n == 0xa0 || n == 0x1680 ||
    (0x2000 ≤ n && n ≤ 0x200a) || n == 0x2028 || n == 0x2029 || n == 0x202f || n == 0x205f ||
    n == 0x3000

/-- The text without the characters at its end that satisfy `p`. -/
def dropEndWhile (p : Char → Bool) (cs : List Char) : List Char :=
  (cs.reverse.dropWhile p).reverse

/-- The text without the blanks at its end. -/
def trimEnd (cs : List Char) : List Char :=
  dropEndWhile isBlank cs

/-- The text without the blanks at its two ends. -/
def trim (cs : List Char) : List Char :=
  trimEnd (cs.dropWhile isBlank)

/-- Every character that core Lean calls white space is blank. -/
theorem isBlank_of_isWhitespace (c : Char) (h : c.isWhitespace = true) : isBlank c = true := by
  simp only [Char.isWhitespace, Bool.or_eq_true, decide_eq_true_eq] at h
  rcases h with ((rfl | rfl) | rfl) | rfl <;> decide

/-- What `trimEnd` leaves does not end in a blank. -/
theorem isBlank_getLast_trimEnd (cs : List Char) (c : Char)
    (h : (trimEnd cs).getLast? = some c) : isBlank c = false := by
  rw [trimEnd, dropEndWhile, List.getLast?_reverse] at h
  have := List.head?_dropWhile_not isBlank cs.reverse
  rw [h] at this
  simpa using this

end DumpKeeper.Text
