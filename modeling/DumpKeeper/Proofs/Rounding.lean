import DumpKeeper.Proofs.Timetable
import Mathlib.Algebra.Order.Field.Power
import Mathlib.Data.Rat.Floor
import Mathlib.Tactic.FieldSimp
import Mathlib.Tactic.Linarith
import Mathlib.Tactic.NormNum
import Mathlib.Tactic.Positivity
import Mathlib.Tactic.Ring

/-!
# Sums and products of floating-point numbers

Every sum and every product of floating-point numbers is the exact one, kept to 53 significant
binary digits.  This file says so of the numbers that are not negative, in terms of the value that
a number has: what the processor does with mantissas and exponents is `keep53` of the exact value,
written as a whole number times a power of two in any way at all.

* `Represents` — what is left of a whole number when digits are shifted out of it one by one.
* `roundedMantissa_shift` — rounding after such a shift is `roundDiv`.
* `keep53_mul_two_pow`, `keep53_mono`, `keep53_congr` — a power of two makes no difference to the
  digits that are kept, a greater number keeps no less, and only the value counts.
* `Holds`, `Is` — a number that is zero or above, not too near to zero, and its value.
* `Is.isFinite`, `Is.value_parts`, `Is.truncate?` — such a number is finite, its parts have that
  value, and its whole part is the value rounded down.
* `Is.add`, `Is.mul`, `is_ofNat` — sums, products and whole numbers.
-/

set_option autoImplicit false

namespace DumpKeeper.Binary64

open Float.Model Float.Model.UnpackedFloat

/-! ## Digits shifted out -/

/-- A mantissa with its two residual bits stands for `n / d`: the mantissa is the quotient, the
first bit tells whether the remainder is half of `d` or more, and the second one whether it is
neither nothing nor just that half. -/
structure Represents (em : ExtendedMantissa) (n d : Nat) : Prop where
  mantissa : em.mantissa = n / d
  roundBit : em.roundBit = true ↔ d ≤ 2 * (n % d)
  stickyBit : em.stickyBit = true ↔ n % d ≠ 0 ∧ 2 * (n % d) ≠ d

theorem represents_exact (n : Nat) : Represents (.ofMantissaAndAccuracy n .exact) n 1 where
  mantissa := (Nat.div_one n).symm
  roundBit := by simp [ExtendedMantissa.ofMantissaAndAccuracy, Nat.mod_one]
  stickyBit := by simp [ExtendedMantissa.ofMantissaAndAccuracy, Nat.mod_one]

/-- One more digit is shifted out. -/
theorem Represents.shiftRightOne {em : ExtendedMantissa} {n d : Nat} (hd : 0 < d)
    (h : Represents em n d) : Represents em.shiftRightOne n (d * 2) := by
  have hr := Nat.mod_lt n hd
  have hmod : n % (d * 2) = n % d + d * (n / d % 2) := Nat.mod_mul
  have hbit : n % (d * 2) = if n / d % 2 = 0 then n % d else n % d + d := by
    rcases Nat.mod_two_eq_zero_or_one (n / d) with hq | hq <;> simp [hmod, hq]
  constructor
  · rw [ExtendedMantissa.shiftRightOne, h.mantissa, Nat.div_div_eq_div_mul]
  · rw [ExtendedMantissa.shiftRightOne, bne_iff_ne, h.mantissa, hbit]
    split <;> omega
  · rw [ExtendedMantissa.shiftRightOne, Bool.or_eq_true, h.roundBit, h.stickyBit, hbit]
    split <;> omega

theorem Represents.shift {em : ExtendedMantissa} {n d : Nat} (hd : 0 < d) (h : Represents em n d)
    (k : Nat) : Represents (em >>> k) n (d * 2 ^ k) := by
  induction k with
  | zero => simpa [HShiftRight.hShiftRight, Nat.repeat] using h
  | succ k ih =>
    rw [pow_succ, ← Nat.mul_assoc]
    exact ih.shiftRightOne (Nat.mul_pos hd (Nat.two_pow_pos k))

/-- What is represented is rounded to the nearest whole number, ties to even. -/
theorem Represents.roundedMantissa {em : ExtendedMantissa} {n d : Nat} (hd : 0 < d)
    (h : Represents em n d) : em.roundedMantissa = roundDiv n d := by
  obtain ⟨m, r, s⟩ := em
  obtain ⟨hm, hr, hs⟩ := h
  dsimp only at hm hr hs
  subst hm
  rw [roundDiv]
  cases r <;> cases s <;>
    simp only [ExtendedMantissa.roundedMantissa, ExtendedMantissa.accuracy,
      Accuracy.roundToNearestEven, Bool.false_eq_true, true_iff, false_iff] at hr hs ⊢ <;>
    split_ifs <;> omega

theorem mantissa_shift (n k : Nat) :
    (ExtendedMantissa.ofMantissaAndAccuracy n .exact >>> k).mantissa = n / 2 ^ k := by
  have h := (represents_exact n).shift Nat.one_pos k
  rw [Nat.one_mul] at h
  exact h.mantissa

/-- **Rounding after a shift is division, rounded to the nearest whole number**, by `roundDiv`. -/
theorem roundedMantissa_shift (n k : Nat) :
    (ExtendedMantissa.ofMantissaAndAccuracy n .exact >>> k).roundedMantissa =
      roundDiv n (2 ^ k) := by
  have h := (represents_exact n).shift Nat.one_pos k
  rw [Nat.one_mul] at h
  exact h.roundedMantissa (Nat.two_pow_pos k)

/-! ## The digits that are kept -/

theorem roundDiv_mono {m n : Nat} (h : m ≤ n) {d : Nat} (hd : 0 < d) :
    roundDiv m d ≤ roundDiv n d := by
  by_contra hlt
  have hm := (roundDiv_bounds m d hd).2
  have hn := (roundDiv_bounds n d hd).1
  have hle : (2 * roundDiv n d + 2) * d ≤ 2 * roundDiv m d * d :=
    Nat.mul_le_mul_right d (by omega)
  rw [Nat.add_mul] at hn hle
  obtain rfl : m = n := by omega
  exact hlt le_rfl

/-- A quotient `n / d` stays the same when both numbers are multiplied by `c`. -/
theorem roundDiv_mul_mul (n d : Nat) {c : Nat} (hc : 0 < c) :
    roundDiv (n * c) (d * c) = roundDiv n d := by
  have hbelow : 2 * (n % d * c) < d * c ↔ 2 * (n % d) < d := by
    rw [← Nat.mul_assoc, Nat.mul_lt_mul_right hc]
  have habove : d * c < 2 * (n % d * c) ↔ d < 2 * (n % d) := by
    rw [← Nat.mul_assoc, Nat.mul_lt_mul_right hc]
  simp only [roundDiv, Nat.mul_div_mul_right _ _ hc, Nat.mul_mod_mul_right, hbelow, habove]

theorem keep53_eq (n : Nat) :
    keep53 n = roundDiv n (2 ^ (n.log2 - 52)) * 2 ^ (n.log2 - 52) := rfl

/-- A number of 53 digits or more is a mantissa of 53 digits, and as many as are cut off. -/
theorem two_pow_le_roundDiv {n : Nat} (hn : 52 ≤ n.log2) :
    2 ^ 52 ≤ roundDiv n (2 ^ (n.log2 - 52)) ∧ roundDiv n (2 ^ (n.log2 - 52)) ≤ 2 ^ 53 := by
  have hne : n ≠ 0 := by
    rintro rfl
    simp at hn
  have hpos := Nat.two_pow_pos (n.log2 - 52)
  have hlow : 2 ^ 52 * 2 ^ (n.log2 - 52) ≤ n := by
    rw [← pow_add, Nat.add_sub_cancel' hn]
    exact Nat.log2_self_le hne
  have hhigh : n ≤ 2 ^ 53 * 2 ^ (n.log2 - 52) := by
    rw [← pow_add, show 53 + (n.log2 - 52) = n.log2 + 1 by omega]
    exact (Nat.lt_log2_self).le
  have h₁ := roundDiv_mono hlow hpos
  have h₂ := roundDiv_mono hhigh hpos
  rw [roundDiv_mul _ _ hpos] at h₁ h₂
  exact ⟨h₁, h₂⟩

/-- Digits `r` behind a number `n` make its logarithm greater by as many. -/
theorem log2_mul_two_pow_add {n r : Nat} (hn : n ≠ 0) {k : Nat} (hr : r < 2 ^ k) :
    (n * 2 ^ k + r).log2 = n.log2 + k := by
  have hpos : 0 < n * 2 ^ k := Nat.mul_pos (Nat.pos_of_ne_zero hn) (Nat.two_pow_pos k)
  rw [Nat.log2_eq_iff (by omega), pow_add, Nat.add_right_comm, pow_add]
  constructor
  · exact Nat.le_add_right_of_le (Nat.mul_le_mul_right _ (Nat.log2_self_le hn))
  · calc n * 2 ^ k + r < (n + 1) * 2 ^ k := by
          rw [Nat.succ_mul]
          omega
      _ ≤ 2 ^ (n.log2 + 1) * 2 ^ k := Nat.mul_le_mul_right _ Nat.lt_log2_self

theorem log2_mul_two_pow {n : Nat} (hn : n ≠ 0) (k : Nat) : (n * 2 ^ k).log2 = n.log2 + k :=
  log2_mul_two_pow_add hn (Nat.two_pow_pos k)

/-- A number `n` and what `keep53` keeps of it are between the same powers of two. -/
theorem keep53_bounds {n : Nat} (hn : n ≠ 0) :
    2 ^ n.log2 ≤ keep53 n ∧ keep53 n ≤ 2 ^ (n.log2 + 1) := by
  rcases Nat.lt_or_ge n.log2 52 with hlog | hlog
  · have hlt : n < 2 ^ 53 := Nat.lt_log2_self.trans_le (Nat.pow_le_pow_right two_pos (by omega))
    rw [keep53_of_lt n hlt]
    exact ⟨Nat.log2_self_le hn, Nat.lt_log2_self.le⟩
  · obtain ⟨hlow, hhigh⟩ := two_pow_le_roundDiv hlog
    rw [keep53_eq]
    constructor
    · conv_lhs => rw [← Nat.add_sub_cancel' hlog, pow_add]
      exact Nat.mul_le_mul_right _ hlow
    · rw [show n.log2 + 1 = 53 + (n.log2 - 52) by omega, pow_add]
      exact Nat.mul_le_mul_right _ hhigh

/-- What `keep53` keeps is greater by no more than half a unit of the last digit. -/
theorem two_mul_keep53_le (n : Nat) : 2 * keep53 n ≤ 2 * n + 2 ^ (n.log2 - 52) := by
  rw [keep53_eq, ← Nat.mul_assoc]
  exact (roundDiv_bounds n _ (Nat.two_pow_pos _)).2

/-- A number of 54 digits that ends with two ones is kept as the next one. -/
theorem keep53_pred_mul_four {k : Nat} (hlow : 2 ^ 51 < k) (hhigh : k ≤ 2 ^ 52) :
    keep53 (4 * k - 1) = 4 * k := by
  have hlog : (4 * k - 1).log2 = 53 := (Nat.log2_eq_iff (by omega)).2 (by omega)
  have htie : roundDiv (4 * k - 1) (2 ^ 1) = 2 * k := by
    rw [roundDiv]
    split_ifs <;> omega
  rw [keep53_eq, hlog, htie]
  omega

/-- **Of a greater number `keep53` keeps no less.** -/
theorem keep53_mono {m n : Nat} (h : m ≤ n) : keep53 m ≤ keep53 n := by
  rcases Nat.eq_zero_or_pos m with rfl | hm
  · rw [keep53_of_lt 0 (by decide)]
    exact Nat.zero_le _
  have hn : n ≠ 0 := by omega
  have hlog : m.log2 ≤ n.log2 := (Nat.le_log2 hn).2 ((Nat.log2_self_le hm.ne').trans h)
  rcases hlog.lt_or_eq with hlt | heq
  · calc
      keep53 m ≤ 2 ^ (m.log2 + 1) := (keep53_bounds hm.ne').2
      _ ≤ 2 ^ n.log2 := Nat.pow_le_pow_right two_pos hlt
      _ ≤ keep53 n := (keep53_bounds hn).1
  · rw [keep53_eq, keep53_eq, heq]
    exact Nat.mul_le_mul_right _ (roundDiv_mono h (Nat.two_pow_pos _))

/-- **A power of two makes no difference to the digits that `keep53` keeps.** -/
theorem keep53_mul_two_pow (n k : Nat) : keep53 (n * 2 ^ k) = keep53 n * 2 ^ k := by
  rcases Nat.eq_zero_or_pos n with rfl | hn
  · rw [Nat.zero_mul]
    rw [keep53_of_lt 0 (by decide), Nat.zero_mul]
  rw [keep53_eq, log2_mul_two_pow hn.ne']
  rcases Nat.lt_or_ge n.log2 52 with hlog | hlog
  · -- all digits are kept, of the one number and of the other
    have hlt : n < 2 ^ 53 := Nat.lt_log2_self.trans_le (Nat.pow_le_pow_right two_pos (by omega))
    have hexact : n * 2 ^ k = n * 2 ^ (k - (n.log2 + k - 52)) * 2 ^ (n.log2 + k - 52) := by
      rw [Nat.mul_assoc, ← pow_add, Nat.sub_add_cancel (by omega)]
    rw [keep53_of_lt n hlt]
    conv_lhs => rw [hexact]
    rw [roundDiv_mul _ _ (Nat.two_pow_pos _), ← hexact]
  · rw [keep53_eq, Nat.sub_add_comm hlog, pow_add, roundDiv_mul_mul _ _ (Nat.two_pow_pos k),
      Nat.mul_assoc]

/-- A number of 53 digits with zeros behind them is kept as it is. -/
theorem keep53_of_lt_mul {n : Nat} (hn : n < 2 ^ 53) (k : Nat) :
    keep53 (n * 2 ^ k) = n * 2 ^ k := by
  rw [keep53_mul_two_pow, keep53_of_lt n hn]

/-- Of a number `n` that is not less than one of 53 digits, no less is kept by `keep53`. -/
theorem le_keep53 {m n : Nat} (hm : m < 2 ^ 53) (k : Nat) (h : m * 2 ^ k ≤ n) :
    m * 2 ^ k ≤ keep53 n :=
  (keep53_of_lt_mul hm k).symm.trans_le (keep53_mono h)

/-- Of a number `n` that is not greater than one of 53 digits, no more is kept by `keep53`. -/
theorem keep53_le {m n : Nat} (hm : m < 2 ^ 53) (k : Nat) (h : n ≤ m * 2 ^ k) :
    keep53 n ≤ m * 2 ^ k :=
  (keep53_mono h).trans_eq (keep53_of_lt_mul hm k)

/-- Zeros behind a number `m` are worth as much in the exponent `e`. -/
theorem mul_two_pow_mul_zpow (m k : Nat) (e : Int) :
    ((m * 2 ^ k : Nat) * 2 ^ e : ℚ) = m * 2 ^ (e + k) := by
  rw [zpow_add₀ two_ne_zero, zpow_natCast]
  push_cast
  ring

/-- Kept digits depend on the value only, however it is written. -/
theorem keep53_congr {m n : Nat} {e f : Int} (h : (m * 2 ^ e : ℚ) = n * 2 ^ f) :
    (keep53 m * 2 ^ e : ℚ) = keep53 n * 2 ^ f := by
  wlog hle : e ≤ f generalizing m n e f
  · exact (this h.symm (Int.le_of_lt (Int.not_le.1 hle))).symm
  obtain ⟨k, rfl⟩ := Int.le.dest hle
  have hm : m = n * 2 ^ k := by
    rw [← mul_two_pow_mul_zpow] at h
    exact_mod_cast mul_right_cancel₀ (zpow_ne_zero e two_ne_zero) h
  rw [hm, keep53_mul_two_pow, mul_two_pow_mul_zpow]

/-! ## Numbers and their values -/

/-- The unpacked number is zero, or it is above zero and has a mantissa of 53 digits, and this is
its value. -/
inductive Holds : Float.Model.UnpackedFloat → ℚ → Prop
  | zero : Holds (.zero .positive) 0
  | normal {m : Nat} {e : Int} {hpos : 0 < m} {v : ℚ} (low : 2 ^ 52 ≤ m) (high : m < 2 ^ 53)
      (least : -1074 ≤ e) (greatest : e ≤ 971) (value : v = m * 2 ^ e) :
      Holds (.finite .positive m e hpos) v

/-- The floating-point number `x` is zero or above, not too near to zero, and its value is `v`. -/
def Is (x : Float) (v : ℚ) : Prop := ∃ u, Holds u v ∧ x.toModel = Float.Model.pack u

theorem log2_eq_52 {m : Nat} (low : 2 ^ 52 ≤ m) (high : m < 2 ^ 53) : m.log2 = 52 :=
  (Nat.log2_eq_iff (by omega)).2 ⟨low, high⟩

/-! ### Packing -/

/-- The bits of a number above zero: its exponent, and its mantissa without the leading digit. -/
theorem toNat_packComponents (e : BitVec 11) (m : BitVec 52) :
    (packComponents Format.binary64 .positive e m).toNat = e.toNat * 2 ^ 52 + m.toNat := by
  have hsign : (Sign.toBitVec .positive ++ e).toNat = e.toNat := by
    rw [BitVec.toNat_append]
    exact Nat.zero_or e.toNat
  have happend : (packComponents Format.binary64 .positive e m).toNat =
      (Sign.toBitVec .positive ++ e).toNat <<< 52 ||| m.toNat := BitVec.toNat_append _ _
  rw [happend, hsign, ← Nat.shiftLeft_add_eq_or_of_lt m.isLt, Nat.shiftLeft_eq]

theorem toNat_exponentBits {e : Int} (least : -1074 ≤ e) (greatest : e ≤ 971) :
    (BitVec.ofNat 11 (e + 1075).toNat).toNat = (e + 1075).toNat := by
  rw [BitVec.toNat_ofNat, Nat.mod_eq_of_lt (by omega)]

theorem toNat_mantissaBits {m : Nat} (low : 2 ^ 52 ≤ m) (high : m < 2 ^ 53) :
    (BitVec.ofNat 52 m).toNat = m - 2 ^ 52 := by
  rw [BitVec.toNat_ofNat]
  omega

/-- The leading digit of a mantissa is not stored. -/
theorem toNat_append_implicit (m : BitVec 52) : (1#1 ++ m).toNat = 2 ^ 52 + m.toNat := by
  rw [BitVec.toNat_append, ← Nat.shiftLeft_add_eq_or_of_lt m.isLt]
  rfl

/-- A number with a mantissa of 53 digits is packed as its exponent and its mantissa. -/
theorem pack_normal {m : Nat} {e : Int} (hpos : 0 < m) (low : 2 ^ 52 ≤ m) (high : m < 2 ^ 53)
    (greatest : e ≤ 971) :
    Float.Model.UnpackedFloat.pack Format.binary64 (.finite .positive m e hpos) =
      packComponents Format.binary64 .positive (BitVec.ofNat 11 (e + 1075).toNat)
        (BitVec.ofNat 52 m) := by
  have hexponent : (e + (Format.exponentBias .binary64 : Int) + 52).toNat = (e + 1075).toNat := by
    rw [add_assoc]
    rfl
  have hroom : ¬ 2 ^ 11 ≤ (e + (Format.exponentBias .binary64 : Int) + 52).toNat + 1 := by
    rw [hexponent]
    omega
  have hdigits : m.log2 + 1 = 53 := by rw [log2_eq_52 low high]
  refine (if_neg hroom).trans ((if_pos hdigits).trans ?_)
  exact congrArg (fun n => packComponents .binary64 .positive (.ofNat 11 n) (.ofNat 52 m)) hexponent

/-- The sign is packed in front of the exponent and the mantissa. -/
theorem unpackSign_packed {spec : Format} (s : Sign) (e : BitVec spec.exponentBits)
    (m : BitVec spec.mantissaBitsWithoutImplicit) :
    unpackSign (packComponents spec s e m) = s.toBitVec := by
  refine BitVec.eq_of_getLsbD_eq fun i hi => ?_
  obtain rfl : i = 0 := by omega
  have hfirst : (s.toBitVec ++ e ++ m).getLsbD
      (spec.mantissaBitsWithoutImplicit + spec.exponentBits) = s.toBitVec.getLsbD 0 := by
    rw [BitVec.getLsbD_append, if_neg (by omega), BitVec.getLsbD_append, if_neg (by omega)]
    congr 1
    omega
  delta unpackSign packComponents
  simpa using hfirst

/-- Numbers with the same parts are the same; that the mantissa is not zero makes no difference. -/
theorem finite_congr {s t : Sign} {m n : Nat} {e f : Int} {hm : 0 < m} {hn : 0 < n} (hs : s = t)
    (hmn : m = n) (hef : e = f) : UnpackedFloat.finite s m e hm = .finite t n f hn := by
  subst hs hmn hef
  rfl

/-- **The number `u` is unpacked as it was packed.** -/
theorem Holds.unpack_pack {u : Float.Model.UnpackedFloat} {v : ℚ} (h : Holds u v) :
    (Float.Model.pack u).unpack = u := by
  cases h with
  | zero => rfl
  | @normal m e hpos _ low high least greatest _ =>
    have he := toNat_exponentBits least greatest
    have hfull : BitVec.ofNat 11 (e + 1075).toNat ≠ -1#11 := by
      intro h
      have hnat := congrArg BitVec.toNat h
      rw [he] at hnat
      have hones : (-1#11 : BitVec 11).toNat = 2047 := rfl
      omega
    have hempty : BitVec.ofNat 11 (e + 1075).toNat ≠ 0#11 := by
      intro h
      have hnat := congrArg BitVec.toNat h
      rw [he, BitVec.toNat_zero] at hnat
      omega
    have hmantissa : (1#1 ++ BitVec.ofNat 52 m).toNat = m := by
      rw [toNat_append_implicit, toNat_mantissaBits low high]
      omega
    have hexponent :
        ((e + 1075).toNat : Int) - ((Format.exponentBias .binary64 : Int) + 52) = e := by
      have hbias : (Format.exponentBias .binary64 : Int) = 1023 := rfl
      omega
    change Float.Model.UnpackedFloat.unpack .binary64
      (Float.Model.UnpackedFloat.pack .binary64 _) = _
    rw [pack_normal hpos low high greatest]
    have hfield : unpackExponent (packComponents .binary64 .positive
        (BitVec.ofNat 11 (e + 1075).toNat) (BitVec.ofNat 52 m)) = _ :=
      unpackExponent_packComponents
    refine (if_neg fun h => hfull (hfield.symm.trans h)).trans ?_
    refine (if_neg fun h => hempty (hfield.symm.trans h)).trans (finite_congr ?_ ?_ ?_)
    · rw [unpackSign_packed]
      rfl
    · rw [unpackMantissa_packComponents]
      exact hmantissa
    · rw [hfield, he]
      exact hexponent

theorem Is.isFinite {x : Float} {v : ℚ} (h : Is x v) : x.isFinite = true := by
  obtain ⟨u, hu, hx⟩ := h
  rw [Float.isFinite, hx, Float.Model.isFinite, hu.unpack_pack]
  cases hu <;> rfl

/-- The parts of a number above zero are read off its bits. -/
theorem parts_eq {x : Float} {m : Nat} {e : Int} (low : 2 ^ 52 ≤ m) (high : m < 2 ^ 53)
    (least : -1074 ≤ e) (greatest : e ≤ 971)
    (hbits : x.toBits.toNat = (e + 1075).toNat * 2 ^ 52 + (m - 2 ^ 52)) :
    parts x = ⟨false, m, e⟩ := by
  have hfield : x.toBits.toNat / Nat.pow 2 52 % Nat.pow 2 11 = (e + 1075).toNat := by
    rw [hbits, Nat.pow_eq, Nat.pow_eq]
    omega
  have hfraction : x.toBits.toNat % Nat.pow 2 52 = m - 2 ^ 52 := by
    rw [hbits, Nat.pow_eq]
    omega
  have hsign : ¬Nat.pow 2 63 ≤ x.toBits.toNat := by
    rw [hbits, Nat.pow_eq]
    omega
  have hne : (e + 1075).toNat ≠ 0 := by omega
  have hmantissa : m - 2 ^ 52 + Nat.pow 2 52 = m := Nat.sub_add_cancel low
  have hexponent : Int.ofNat (e + 1075).toNat - 1075 = e := by
    rw [Int.ofNat_eq_natCast]
    omega
  simp only [parts, hfield, hfraction, if_neg hne, hmantissa, hexponent, Parts.mk.injEq,
    decide_eq_false_iff_not, and_true]
  exact hsign

/-- **The `parts` of the number `x` have its value.** -/
theorem Is.value_parts {x : Float} {v : ℚ} (h : Is x v) : (parts x).value = v := by
  obtain ⟨u, hu, hx⟩ := h
  have hbits : x.toBits.toNat = (Float.Model.UnpackedFloat.pack .binary64 u).toNat :=
    congrArg (fun y : Float.Model => y.toBits.toNat) hx
  cases hu with
  | zero =>
    have hzero : x.toBits.toNat = 0 := hbits
    simp [parts, hzero, Parts.value]
  | @normal m e hpos _ low high least greatest value =>
    rw [pack_normal hpos low high greatest, toNat_packComponents,
      toNat_exponentBits least greatest, toNat_mantissaBits low high] at hbits
    rw [parts_eq low high least greatest hbits, Parts.value, value]
    simp

/-! ### Rounding -/

/-- The exponent at which a number with 53 digits or more has just 53. -/
theorem shiftToTargetExponent_eq {m : Nat} (hm : 52 ≤ m.log2) {e : Int}
    (he : -1074 ≤ e + (m.log2 - 52 : Nat)) :
    shiftToTargetExponent .binary64 m e .exact =
      (ExtendedMantissa.ofMantissaAndAccuracy m .exact >>> (m.log2 - 52),
        e + (m.log2 - 52 : Nat)) := by
  have htarget : Format.targetExponent .binary64 (totalExponent m e) =
      e + (m.log2 - 52 : Nat) := by
    have hbits : (Format.mantissaBits .binary64 : Int) = 53 := rfl
    have hmin : Format.minExponent .binary64 = -1074 := rfl
    rw [Format.targetExponent, totalExponent, hbits, hmin]
    omega
  rw [shiftToTargetExponent, htarget, shiftToExponent, add_sub_cancel_left, Int.toNat_natCast]

/-- A rounded mantissa has 53 digits, unless it is one too many and halved. -/
theorem rounded_bounds {r : Nat} (hlow : 2 ^ 52 ≤ r) (hhigh : r ≤ 2 ^ 53) :
    2 ^ 52 ≤ r / 2 ^ (r.log2 - 52) ∧ r / 2 ^ (r.log2 - 52) < 2 ^ 53 ∧
      r / 2 ^ (r.log2 - 52) * 2 ^ (r.log2 - 52) = r := by
  rcases hhigh.lt_or_eq with hlt | rfl
  · rw [log2_eq_52 hlow hlt, Nat.sub_self, pow_zero, Nat.div_one, Nat.mul_one]
    exact ⟨hlow, hlt, rfl⟩
  · rw [Nat.log2_two_pow]
    decide

/-- A number `m * 2 ^ e` that is in range has an exponent in range. -/
theorem exponent_le {m : Nat} (hm : 2 ^ 52 ≤ m) {e : Int} (hv : (m * 2 ^ e : ℚ) < 2 ^ 1024) :
    e ≤ 971 := by
  have hpow : (2 ^ 52 * 2 ^ e : ℚ) ≤ m * 2 ^ e :=
    mul_le_mul_of_nonneg_right (by exact_mod_cast hm) (zpow_pos two_pos _).le
  have hlt := hpow.trans_lt hv
  rw [← zpow_natCast, ← zpow_natCast, ← zpow_add₀ two_ne_zero,
    zpow_lt_zpow_iff_right₀ one_lt_two] at hlt
  push_cast at hlt
  omega

/-- **A mantissa `m` with 53 digits or more is rounded to `keep53 m`**, the digits that are kept of
it. -/
theorem holds_roundWithAccuracy {m : Nat} (hm : 52 ≤ m.log2) {e : Int}
    (he : -1074 ≤ e + (m.log2 - 52 : Nat)) (hv : (keep53 m * 2 ^ e : ℚ) < 2 ^ 1024) :
    Holds (roundWithAccuracy .binary64 .positive m e .exact) (keep53 m * 2 ^ e) := by
  obtain ⟨hlow, hhigh⟩ := two_pow_le_roundDiv hm
  rw [keep53_eq, mul_two_pow_mul_zpow] at hv ⊢
  generalize hr : roundDiv m (2 ^ (m.log2 - 52)) = r at hlow hhigh hv ⊢
  generalize hk : m.log2 - 52 = k at he hr hv ⊢
  have hlog : 52 ≤ r.log2 := (Nat.le_log2 (by omega)).2 hlow
  have hround : roundWithAccuracy .binary64 .positive m e .exact =
      if h : r / 2 ^ (r.log2 - 52) = 0 then .zero .positive
      else .finite .positive (r / 2 ^ (r.log2 - 52)) (e + k + (r.log2 - 52 : Nat))
        (Nat.pos_of_ne_zero h) := by
    have hfirst := shiftToTargetExponent_eq hm (e := e) (by rw [hk]; exact he)
    have hsecond := shiftToTargetExponent_eq hlog (e := e + k) (by omega)
    rw [roundWithAccuracy, hfirst]
    dsimp only
    rw [roundedMantissa_shift, hk, hr, hsecond]
    dsimp only
    rw [mantissa_shift]
  obtain ⟨hq, hq', hexact⟩ := rounded_bounds hlow hhigh
  generalize r.log2 - 52 = j at hround hq hq' hexact
  have hvalue : (r * 2 ^ (e + k) : ℚ) = (r / 2 ^ j : Nat) * 2 ^ (e + k + j) := by
    rw [← mul_two_pow_mul_zpow (r / 2 ^ j), hexact]
  have hgreatest := exponent_le hq (hvalue ▸ hv)
  rw [hround, dif_neg (by omega)]
  exact .normal hq hq' (by omega) hgreatest hvalue

/-- Digits that are shifted by `k` are worth the same at the lesser exponent. -/
theorem shiftLeft_mul_zpow (m k : Nat) (e : Int) :
    ((m <<< k : Nat) * 2 ^ (e - k) : ℚ) = m * 2 ^ e := by
  rw [Nat.shiftLeft_eq, mul_two_pow_mul_zpow, sub_add_cancel]

/-- **A mantissa `m` above zero is rounded to `keep53 m`**, the digits that are kept of it. -/
theorem holds_round {m : Nat} (hm : m ≠ 0) {e : Int} (he : -1022 ≤ e + m.log2)
    (hv : (keep53 m * 2 ^ e : ℚ) < 2 ^ 1024) :
    Holds (Float.Model.UnpackedFloat.round .binary64 .positive m e) (keep53 m * 2 ^ e) := by
  have htarget : Format.targetExponent .binary64 (totalExponent m e) = e + m.log2 - 52 := by
    have hbits : (Format.mantissaBits .binary64 : Int) = 53 := rfl
    have hmin : Format.minExponent .binary64 = -1074 := rfl
    rw [Format.targetExponent, totalExponent, hbits, hmin]
    omega
  rw [Float.Model.UnpackedFloat.round, htarget, decreaseExponent]
  dsimp only
  generalize hk : (e - (e + m.log2 - 52)).toNat = k
  have hsame := keep53_congr (shiftLeft_mul_zpow m k e)
  have hlog : (m <<< k).log2 = m.log2 + k := by
    rw [Nat.shiftLeft_eq, log2_mul_two_pow hm]
  rw [← hsame] at hv ⊢
  exact holds_roundWithAccuracy (by omega) (by omega) hv

theorem normalize_natCast {m : Nat} (hm : m ≠ 0) (e : Int) :
    Float.Model.UnpackedFloat.normalize .binary64 m e .positive =
      Float.Model.UnpackedFloat.round .binary64 .positive m e := by
  have hcompare : compare (m : Int) 0 = .gt := Int.compare_eq_gt.2 (by omega)
  rw [Float.Model.UnpackedFloat.normalize, hcompare, Int.toNat_natCast]

/-- A value `v` that a number has keeps all of its digits: `keep53` changes nothing. -/
theorem Holds.eq_keep53 {u : Float.Model.UnpackedFloat} {v : ℚ} (hu : Holds u v) {n : Nat} {e : Int}
    (hn : v = n * 2 ^ e) : v = keep53 n * 2 ^ e := by
  cases hu with
  | zero =>
    have hzero : n = 0 := by
      rcases mul_eq_zero.1 hn.symm with h | h
      · exact_mod_cast h
      · exact absurd h (zpow_ne_zero e two_ne_zero)
    subst hzero
    rw [keep53_of_lt 0 (by decide), ← hn]
  | normal low high least greatest value =>
    rw [← keep53_congr (value.symm.trans hn), keep53_of_lt _ high, value]

/-- The sum of unpacked numbers. -/
theorem Holds.add {u w : Float.Model.UnpackedFloat} {p q : ℚ} (hu : Holds u p) (hw : Holds w q)
    {n : Nat} {e : Int} (hsum : p + q = n * 2 ^ e) (hv : (keep53 n * 2 ^ e : ℚ) < 2 ^ 1024) :
    Holds (Float.Model.UnpackedFloat.add .binary64 u w) (keep53 n * 2 ^ e) := by
  cases hu with
  | zero =>
    rw [zero_add] at hsum
    rw [← hw.eq_keep53 hsum]
    cases hw with
    | zero => exact .zero
    | normal low high least greatest value => exact .normal low high least greatest value
  | @normal m₁ e₁ hpos₁ _ low₁ high₁ least₁ greatest₁ value₁ =>
    cases hw with
    | zero =>
      rw [add_zero] at hsum
      have hu : Holds (.finite .positive m₁ e₁ hpos₁) p :=
        .normal low₁ high₁ least₁ greatest₁ value₁
      rw [← hu.eq_keep53 hsum]
      exact hu
    | @normal m₂ e₂ hpos₂ _ low₂ high₂ least₂ greatest₂ value₂ =>
      -- both mantissas are written at the lesser exponent, where they can be added
      generalize hf : min e₁ e₂ = f
      obtain ⟨i, rfl⟩ := Int.le.dest (hf ▸ min_le_left e₁ e₂)
      obtain ⟨j, rfl⟩ := Int.le.dest (hf ▸ min_le_right (f + i) e₂)
      have hexact : ((m₁ <<< i + m₂ <<< j : Nat) * 2 ^ f : ℚ) = n * 2 ^ e := by
        have h₁ := shiftLeft_mul_zpow m₁ i (f + i)
        have h₂ := shiftLeft_mul_zpow m₂ j (f + j)
        rw [add_sub_cancel_right] at h₁ h₂
        rw [← hsum, value₁, value₂, ← h₁, ← h₂]
        push_cast
        ring
      have hle : m₁ ≤ m₁ <<< i + m₂ <<< j := by
        rw [Nat.shiftLeft_eq]
        exact Nat.le_add_right_of_le (Nat.le_mul_of_pos_right _ (Nat.two_pow_pos i))
      have hlog : 52 ≤ (m₁ <<< i + m₂ <<< j).log2 := (Nat.le_log2 (by omega)).2 (low₁.trans hle)
      have hround : Float.Model.UnpackedFloat.add .binary64 (.finite .positive m₁ (f + i) hpos₁)
          (.finite .positive m₂ (f + j) hpos₂) =
            Float.Model.UnpackedFloat.round .binary64 .positive (m₁ <<< i + m₂ <<< j) f := by
        rw [← normalize_natCast (by omega)]
        change normalize .binary64 (((decreaseExponent m₁ (f + i) (min (f + i) (f + j))).1 : Int) +
          (decreaseExponent m₂ (f + j) (min (f + i) (f + j))).1) (min (f + i) (f + j)) .positive = _
        simp only [decreaseExponent, hf, add_sub_cancel_left, Int.toNat_natCast, Nat.cast_add]
      rw [← keep53_congr hexact] at hv ⊢
      rw [hround]
      exact holds_round (by omega) (by omega) hv

/-- A number that is not too near to zero has an exponent and digits enough. -/
theorem le_exponent {m : Nat} {e : Int} (hv : (2 : ℚ) ^ (-1022 : ℤ) ≤ m * 2 ^ e) :
    -1022 ≤ e + m.log2 := by
  have hlt : (m * 2 ^ e : ℚ) < 2 ^ (m.log2 + 1) * 2 ^ e :=
    mul_lt_mul_of_pos_right (by exact_mod_cast Nat.lt_log2_self) (zpow_pos two_pos _)
  have hpow := hv.trans_lt hlt
  rw [← zpow_natCast, ← zpow_add₀ two_ne_zero, zpow_lt_zpow_iff_right₀ one_lt_two] at hpow
  push_cast at hpow
  omega

/-- The product of unpacked numbers. -/
theorem Holds.mul {u w : Float.Model.UnpackedFloat} {p q : ℚ} (hu : Holds u p) (hw : Holds w q)
    {n : Nat} {e : Int} (hproduct : p * q = n * 2 ^ e)
    (hleast : p * q ≠ 0 → 2 ^ (-1022 : ℤ) ≤ p * q) (hv : (keep53 n * 2 ^ e : ℚ) < 2 ^ 1024) :
    Holds (Float.Model.UnpackedFloat.mul .binary64 u w) (keep53 n * 2 ^ e) := by
  have hzero (h : p * q = 0) : (keep53 n * 2 ^ e : ℚ) = 0 := by
    rw [h] at hproduct
    exact (Holds.zero.eq_keep53 hproduct).symm
  cases hu with
  | zero =>
    rw [hzero (zero_mul q)]
    cases hw with
    | zero => exact .zero
    | normal => exact .zero
  | @normal m₁ e₁ hpos₁ _ low₁ high₁ least₁ greatest₁ value₁ =>
    cases hw with
    | zero =>
      rw [hzero (mul_zero p)]
      exact .zero
    | @normal m₂ e₂ hpos₂ _ low₂ high₂ least₂ greatest₂ value₂ =>
      have hexact : p * q = (m₁ * m₂ : Nat) * 2 ^ (e₁ + e₂) := by
        rw [value₁, value₂, zpow_add₀ two_ne_zero]
        push_cast
        ring
      have hle : 2 ^ 52 ≤ m₁ * m₂ := low₁.trans (Nat.le_mul_of_pos_right m₁ hpos₂)
      have hlog : 52 ≤ (m₁ * m₂).log2 := (Nat.le_log2 (by omega)).2 hle
      have hexponent : -1074 ≤ e₁ + e₂ + ((m₁ * m₂).log2 - 52 : Nat) := by
        have hne : p * q ≠ 0 := by
          rw [hexact]
          exact mul_ne_zero (by exact_mod_cast (by omega : m₁ * m₂ ≠ 0))
            (zpow_ne_zero _ two_ne_zero)
        have hlog' := le_exponent (hexact ▸ hleast hne)
        omega
      rw [← keep53_congr (hexact.symm.trans hproduct)] at hv ⊢
      exact holds_roundWithAccuracy hlog hexponent hv

/-! ## Floating-point numbers -/

/-- **The sum of `x` and `y`** is the exact one, kept to 53 digits. -/
theorem Is.add {x y : Float} {p q : ℚ} (hx : Is x p) (hy : Is y q) {n : Nat} {e : Int}
    (hsum : p + q = n * 2 ^ e) (hv : (keep53 n * 2 ^ e : ℚ) < 2 ^ 1024) :
    Is (x + y) (keep53 n * 2 ^ e) := by
  obtain ⟨u, hu, hxu⟩ := hx
  obtain ⟨w, hw, hyw⟩ := hy
  refine ⟨_, hu.add hw hsum hv, ?_⟩
  rw [← hu.unpack_pack, ← hw.unpack_pack, ← hxu, ← hyw]
  rfl

/-- **The product of `x` and `y`** is the exact one, kept to 53 digits. -/
theorem Is.mul {x y : Float} {p q : ℚ} (hx : Is x p) (hy : Is y q) {n : Nat} {e : Int}
    (hproduct : p * q = n * 2 ^ e) (hleast : p * q ≠ 0 → 2 ^ (-1022 : ℤ) ≤ p * q)
    (hv : (keep53 n * 2 ^ e : ℚ) < 2 ^ 1024) : Is (x * y) (keep53 n * 2 ^ e) := by
  obtain ⟨u, hu, hxu⟩ := hx
  obtain ⟨w, hw, hyw⟩ := hy
  refine ⟨_, hu.mul hw hproduct hleast hv, ?_⟩
  rw [← hu.unpack_pack, ← hw.unpack_pack, ← hxu, ← hyw]
  rfl

theorem holds_ofNat {n : Nat} (hn : n < 2 ^ 53) :
    Holds (Float.Model.UnpackedFloat.ofNat .binary64 n) n := by
  rcases Nat.eq_zero_or_pos n with rfl | hpos
  · rw [Nat.cast_zero]
    exact .zero
  · have hv : (keep53 n * 2 ^ (0 : ℤ) : ℚ) < 2 ^ 1024 := by
      rw [keep53_of_lt n hn, zpow_zero, mul_one]
      exact_mod_cast hn.trans (Nat.pow_lt_pow_right one_lt_two (by decide))
    have hround := holds_round hpos.ne' (by omega) hv
    rw [keep53_of_lt n hn, zpow_zero, mul_one] at hround
    rw [Float.Model.UnpackedFloat.ofNat, Float.Model.UnpackedFloat.ofInt,
      normalize_natCast hpos.ne']
    exact hround

/-- **A whole number `n` of at most 53 digits is a floating-point number.** -/
theorem is_ofNat {n : Nat} (hn : n < 2 ^ 53) : Is (Float.ofNat n) n := by
  -- a number is read as a decimal, which is multiplied with a power of ten
  have hsize : 0 < Float.exactlyRepresentablePowersOfTen.size := by decide
  have hone : Is Float.exactlyRepresentablePowersOfTen[0] 1 :=
    ⟨.finite .positive (2 ^ 52) (-52) (by decide),
      .normal le_rfl (by decide) (by decide) (by decide) (by norm_num), rfl⟩
  have hnat : Is n.toUInt64.toFloat n := by
    refine ⟨_, holds_ofNat hn, ?_⟩
    have hsame : n.toUInt64.toNat = n := by
      rw [Nat.toUInt64_eq, UInt64.toNat_ofNat', Nat.mod_eq_of_lt (by omega)]
    rw [UInt64.toFloat, Float.Model.ofUInt64, Float.Model.UnpackedFloat.ofUInt64, hsame]
  have hproduct : Float.ofNat n =
      n.toUInt64.toFloat * Float.exactlyRepresentablePowersOfTen[0] := by
    rw [Float.ofNat]
    simp only [OfScientific.ofScientific, Float.ofScientific]
    rw [dif_pos ⟨hn, by decide⟩]
    rfl
  rw [hproduct]
  have hkeep : (keep53 n * 2 ^ (0 : ℤ) : ℚ) = n := by
    rw [keep53_of_lt n hn, zpow_zero, mul_one]
  have hmul := hnat.mul hone (n := n) (e := 0) (by simp) ?_ ?_
  · rwa [hkeep] at hmul
  · intro hne
    rw [mul_one] at hne ⊢
    have hle : (1 : ℚ) ≤ n := by exact_mod_cast Nat.one_le_iff_ne_zero.2 (by exact_mod_cast hne)
    exact (zpow_le_one_of_nonpos₀ one_le_two (by decide)).trans hle
  · rw [hkeep]
    exact_mod_cast hn.trans (Nat.pow_lt_pow_right one_lt_two (by decide))

theorem Holds.nonneg {u : Float.Model.UnpackedFloat} {v : ℚ} (hu : Holds u v) : 0 ≤ v := by
  cases hu with
  | zero => exact le_rfl
  | normal low high least greatest value =>
    rw [value]
    positivity

/-- **The whole part of `x`** is its value `v`, rounded down. -/
theorem Is.truncate? {x : Float} {v : ℚ} (h : Is x v) : Binary64.truncate? x = some ⌊v⌋ := by
  have hnonneg : 0 ≤ (parts x).value := by
    rw [h.value_parts]
    exact h.choose_spec.1.nonneg
  rw [Binary64.truncate?, if_pos h.isFinite, Parts.truncate_eq_floor hnonneg, h.value_parts]

end DumpKeeper.Binary64
