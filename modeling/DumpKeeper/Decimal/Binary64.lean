/-!
# Floating-point numbers as exact values

A finite floating-point number is a whole number times a power of two.  Everything that has to be
exact — truncation, comparison with whole numbers, the decimal text — starts from that form.

* `Parts`, `parts` — sign, mantissa and exponent of a finite number.
* `truncate?` — the whole part, rounded toward zero; `none` for the infinities and for `NaN`.
* `ofDecimal` — the nearest floating-point number to `n · 10 ^ e`.
* `roundDiv` — a quotient of whole numbers rounded to the nearest whole number, ties to even.
* `keep53` — a whole number rounded to 53 significant binary digits, as every result of
  floating-point arithmetic is.
* `ofInt?` — the nearest floating-point number to a whole number, `none` when it is out of range.
-/

set_option autoImplicit false

namespace DumpKeeper.Binary64

/-- A finite number, written as `± mantissa · 2 ^ exponent`. -/
structure Parts where
  negative : Bool
  mantissa : Nat
  exponent : Int
  deriving DecidableEq, Repr

/-- The parts of the finite number `x`.  The mantissa has 53 bits, fewer only for numbers next to
zero. -/
def parts (x : Float) : Parts :=
  let bits := x.toBits.toNat
  let field := bits / Nat.pow 2 52 % Nat.pow 2 11
  let fraction := bits % Nat.pow 2 52
  { negative := Nat.pow 2 63 ≤ bits
    mantissa := if field = 0 then fraction else fraction + Nat.pow 2 52
    exponent := if field = 0 then -1074 else Int.ofNat field - 1075 }

/-- The whole part of the finite number with the parts `p`. -/
def Parts.truncate (p : Parts) : Int :=
  let magnitude : Nat :=
    if 0 ≤ p.exponent then p.mantissa * Nat.pow 2 p.exponent.toNat
    else p.mantissa / Nat.pow 2 (-p.exponent).toNat
  if p.negative then -magnitude else magnitude

/-- The whole part of `x`, rounded toward zero. -/
def truncate? (x : Float) : Option Int :=
  if x.isFinite then some (parts x).truncate else none

/-- Whether `x` has exactly the value of the whole number `n`. -/
def equalsInt (x : Float) (n : Int) : Bool :=
  x.isFinite &&
    let p := parts x
    let signed : Int := if p.negative then -p.mantissa else p.mantissa
    if 0 ≤ p.exponent then signed * Nat.pow 2 p.exponent.toNat == n
    else signed == n * Nat.pow 2 (-p.exponent).toNat

/-- The nearest number to `n · 10 ^ e`.  Powers far outside the range go to zero or to infinity
without being computed. -/
def ofDecimal (n : Nat) (e : Int) : Float :=
  let digits : Int := (Nat.toDigits 10 n).length
  if n = 0 ∨ digits + e < -330 then 0
  else if 320 < digits + e then Float.ofScientific 1 false 400
  else if 0 ≤ e then Float.ofScientific n false e.toNat
  else Float.ofScientific n true (-e).toNat

/-- The quotient of `n` and `d` rounded to the nearest whole number, a tie going to the even
neighbour. -/
def roundDiv (n d : Nat) : Nat :=
  let q := n / d
  let r := n % d
  if 2 * r < d then q
  else if d < 2 * r then q + 1
  else q + q % 2

/-- A rounded quotient is off by half a unit at most. -/
theorem roundDiv_bounds (n d : Nat) (hd : 0 < d) :
    2 * n ≤ (2 * roundDiv n d + 1) * d ∧ 2 * roundDiv n d * d ≤ 2 * n + d := by
  have hn := Nat.div_add_mod n d
  have hr := Nat.mod_lt n hd
  have e1 : (2 * (n / d) + 1) * d = 2 * (d * (n / d)) + d := by
    rw [Nat.add_mul, Nat.one_mul, Nat.mul_assoc, Nat.mul_comm (n / d)]
  have e2 : (2 * (n / d + 1) + 1) * d = 2 * (d * (n / d)) + 3 * d := by
    rw [show 2 * (n / d + 1) + 1 = 2 * (n / d) + 3 by omega, Nat.add_mul, Nat.mul_assoc,
      Nat.mul_comm (n / d)]
  have e3 : 2 * (n / d) * d = 2 * (d * (n / d)) := by
    rw [Nat.mul_assoc, Nat.mul_comm (n / d)]
  have e4 : 2 * (n / d + 1) * d = 2 * (d * (n / d)) + 2 * d := by
    rw [show 2 * (n / d + 1) = 2 * (n / d) + 2 by omega, Nat.add_mul, Nat.mul_assoc,
      Nat.mul_comm (n / d)]
  simp only [roundDiv]
  split
  · rw [e1, e3]; omega
  · split
    · rw [e2, e4]; omega
    · rcases Nat.mod_two_eq_zero_or_one (n / d) with h | h <;> simp only [h, Nat.add_zero] <;> omega

/-- An exact quotient is not changed by rounding. -/
theorem roundDiv_mul (q d : Nat) (hd : 0 < d) : roundDiv (q * d) d = q := by
  simp [roundDiv, Nat.mul_div_cancel q hd, hd]

/-- The whole number `n` rounded to 53 significant binary digits. -/
def keep53 (n : Nat) : Nat :=
  let unit := Nat.pow 2 (n.log2 + 1 - 53)
  roundDiv n unit * unit

/-- Numbers of at most 53 binary digits are kept as they are by `keep53`. -/
theorem keep53_of_lt (n : Nat) (h : n < Nat.pow 2 53) : keep53 n = n := by
  have hs : n.log2 + 1 - 53 = 0 := by
    rcases Nat.eq_zero_or_pos n with rfl | hn
    · decide
    · have := (Nat.log2_lt (Nat.pos_iff_ne_zero.1 hn)).2 h
      omega
  simp only [keep53, hs]
  simpa using roundDiv_mul n 1 (by decide)

/-- Whether a whole number rounds to something below `2 ^ 1024`, the least power out of range. -/
def fits (n : Nat) : Bool :=
  keep53 n < Nat.pow 2 1024

/-- Numbers of at most 53 binary digits are in range. -/
theorem fits_of_lt (n : Nat) (h : n < Nat.pow 2 53) : fits n = true := by
  rw [fits, keep53_of_lt n h, decide_eq_true_eq]
  exact Nat.lt_trans h (by decide +kernel)

/-- The nearest number to a whole number, ties to even; `none` beyond the largest finite one. -/
def ofInt? (n : Int) : Option Float :=
  if fits n.natAbs then some (Float.ofInt n) else none

end DumpKeeper.Binary64
