import DumpKeeper.Proofs.Cycle
import DumpKeeper.Proofs.Rounding
import DumpKeeper.Proofs.Stamp
import Mathlib.Tactic.IntervalCases

/-!
# The second that a key names

The key of a dump names the second in which the dump was changed, and that second is taken from a
floating-point number: the seconds of the time and a thousand-millionth part of its nanoseconds,
added up and cut to a whole number.  What is lost by rounding is seldom seen, for the whole part of
a number close to a second is that second all the same.  It is seen just before the next second:
where less is left of a second than half of the distance of floating-point numbers of that size, the
sum is the next second.

* `FileTime.IsProper`, `FileTime.RoundsUp`, `FileTime.keySecond` — times of files, which of them are
  rounded up, and the second that then counts.
* `FileTime.keep53_div` — the whole part of a second with a fraction, told by the fraction.
* `FileTime.wholeSeconds_eq` — the second of a file is `keySecond`.
* `Executor.keyAt?`, `key_of_runCycle` — the key of a second, and the key of a cycle.
-/

set_option autoImplicit false

namespace DumpKeeper

namespace FileTime

/-- The time `t` is one that systems tell of a file: not before 1970, in one of the years that dates
have, and with less than a second in nanoseconds. -/
structure IsProper (t : FileTime) : Prop where
  nonneg : 0 ≤ t.seconds
  dated : t.seconds < 253402300800
  nanos : t.nanos < 10 ^ 9

/-- What is left of the second is no more than half the distance of floating-point numbers of the
size of the whole time, `2 ^ (log2 s - 52)` seconds. -/
def RoundsUp (t : FileTime) : Prop :=
  (10 ^ 9 - t.nanos) * 2 ^ 53 ≤ 10 ^ 9 * 2 ^ t.seconds.toNat.log2

instance (t : FileTime) : Decidable t.RoundsUp :=
  inferInstanceAs (Decidable ((10 ^ 9 - t.nanos) * 2 ^ 53 ≤ 10 ^ 9 * 2 ^ t.seconds.toNat.log2))

/-- The second of the time `t`, or the next one if `t` is rounded up. -/
def keySecond (t : FileTime) : Int := t.seconds + if t.RoundsUp then 1 else 0

/-! ## Nanoseconds -/

/-- A thousand-millionth as a floating-point number, in units of `2 ^ -82`. -/
def nanoUnits : Nat := 4835703278458517

/-- So many nanoseconds as a floating-point number, in units of `2 ^ -82`. -/
def fractionUnits (n : Nat) : Nat := Binary64.keep53 (nanoUnits * n)

theorem is_nano : Binary64.Is 1e-9 (nanoUnits * 2 ^ (-82 : ℤ)) :=
  ⟨.finite .positive nanoUnits (-82) (by decide),
    .normal (by decide) (by decide) (by decide) (by decide) rfl, rfl⟩

/-- Less than a second of nanoseconds, `n`, stays less than a second. -/
theorem fractionUnits_le {n : Nat} (hn : n < 10 ^ 9) : fractionUnits n ≤ 2 ^ 82 - 2 ^ 30 := by
  have hle : nanoUnits * n ≤ (2 ^ 52 - 1) * 2 ^ 30 := by
    rw [nanoUnits]
    omega
  exact Binary64.keep53_le (by decide) 30 hle

theorem is_fraction {n : Nat} (hn : n < 10 ^ 9) :
    Binary64.Is (1e-9 * Float.ofNat n) (fractionUnits n * 2 ^ (-82 : ℤ)) := by
  have hproduct : (nanoUnits * 2 ^ (-82 : ℤ) * n : ℚ) = (nanoUnits * n : Nat) * 2 ^ (-82 : ℤ) := by
    push_cast
    ring
  refine is_nano.mul (Binary64.is_ofNat (by omega)) hproduct (fun hne => ?_) ?_
  · have hpos : 1 ≤ nanoUnits * n := by
      refine Nat.one_le_iff_ne_zero.2 fun h => hne ?_
      rw [hproduct, h, Nat.cast_zero, zero_mul]
    rw [hproduct]
    calc (2 : ℚ) ^ (-1022 : ℤ) ≤ 2 ^ (-82 : ℤ) := zpow_le_zpow_right₀ one_le_two (by decide)
      _ ≤ (nanoUnits * n : Nat) * 2 ^ (-82 : ℤ) :=
        le_mul_of_one_le_left (by positivity) (by exact_mod_cast hpos)
  · have hle : (fractionUnits n : ℚ) ≤ 2 ^ 82 := by
      exact_mod_cast (fractionUnits_le hn).trans (Nat.sub_le _ _)
    calc (fractionUnits n * 2 ^ (-82 : ℤ) : ℚ) ≤ 2 ^ 82 * 2 ^ (-82 : ℤ) :=
        mul_le_mul_of_nonneg_right hle (by positivity)
      _ = 1 := by norm_num
      _ < 2 ^ 1024 := one_lt_pow₀ one_lt_two (by decide)

/-! ## Whole seconds -/

section Seconds

variable {s f : Nat}

/-- The middle between the next second and the floating-point number before it counts as the next
second. -/
theorem keep53_middle (hs : s ≠ 0) (hs' : s < 2 ^ 38) :
    Binary64.keep53 ((s + 1) * 2 ^ 82 - 2 ^ (s.log2 + 29)) = (s + 1) * 2 ^ 82 := by
  have hlow := Nat.log2_self_le hs
  have hhigh : s < 2 ^ (s.log2 + 1) := Nat.lt_log2_self
  have hlog : s.log2 < 38 := (Nat.log2_lt hs).2 hs'
  generalize s.log2 = l at hlow hhigh hlog
  obtain ⟨j, hj⟩ : ∃ j, l + j = 51 := ⟨51 - l, by omega⟩
  have hunits : (s + 1) * 2 ^ 82 = 4 * ((s + 1) * 2 ^ j) * 2 ^ (l + 29) := by
    rw [show 82 = 2 + (j + (l + 29)) by omega, pow_add, pow_add]
    ring
  have hfirst : 2 ^ 51 < (s + 1) * 2 ^ j := by
    rw [← hj, pow_add]
    exact (Nat.mul_lt_mul_right (Nat.two_pow_pos j)).2 (by omega)
  have hlast : (s + 1) * 2 ^ j ≤ 2 ^ 52 := by
    rw [show 52 = l + 1 + j by omega, pow_add _ (l + 1)]
    exact Nat.mul_le_mul_right _ hhigh
  rw [hunits, ← Nat.sub_one_mul, Binary64.keep53_mul_two_pow,
    Binary64.keep53_pred_mul_four hfirst hlast]

/-- The next second is reached by `s * 2 ^ 82 + f` from the middle between it and the floating-point
number before it. -/
theorem keep53_div (hs : s < 2 ^ 38) (hf : f ≤ 2 ^ 82 - 2 ^ 30) :
    Binary64.keep53 (s * 2 ^ 82 + f) / 2 ^ 82 =
      s + if 2 ^ 82 - 2 ^ (s.log2 + 29) ≤ f then 1 else 0 := by
  have hs' : s + 1 < 2 ^ 53 := by omega
  have hle : s * 2 ^ 82 + f ≤ (s + 1) * 2 ^ 82 := by omega
  rcases Nat.eq_zero_or_pos s with rfl | hpos
  · have hbelow : 0 * 2 ^ 82 + f ≤ (2 ^ 52 - 1) * 2 ^ 30 := by omega
    rw [Nat.log2_zero, if_neg (by omega), Nat.div_eq_of_lt]
    exact (Binary64.keep53_le (by decide) 30 hbelow).trans_lt (by decide)
  split_ifs with hup
  · have hmiddle : (s + 1) * 2 ^ 82 - 2 ^ (s.log2 + 29) ≤ s * 2 ^ 82 + f := by omega
    have hmono := Binary64.keep53_mono hmiddle
    rw [keep53_middle hpos.ne' hs] at hmono
    rw [(Binary64.keep53_le hs' 82 hle).antisymm hmono, Nat.mul_div_cancel _ (by decide)]
  · have hround := Binary64.two_mul_keep53_le (s * 2 ^ 82 + f)
    have hlow := Binary64.le_keep53 ((Nat.lt_succ_self s).trans hs') 82 (Nat.le_add_right _ f)
    rw [Binary64.log2_mul_two_pow_add hpos.ne' (by omega), Nat.add_sub_assoc (by decide)] at hround
    generalize Binary64.keep53 (s * 2 ^ 82 + f) = k at hround hlow ⊢
    rw [pow_add] at hup hround
    omega

end Seconds

/-- `r`, the nanoseconds before the next second, are no more than half the distance of
floating-point numbers. -/
theorem units_of_le {n r p : Nat} (hsplit : n + r = 10 ^ 9) (h : r * 2 ^ 53 ≤ 10 ^ 9 * p) :
    2 ^ 82 ≤ nanoUnits * n + p * 2 ^ 29 := by
  rw [nanoUnits]
  omega

/-- `r`, the nanoseconds before the next second, are more than half the distance of floating-point
numbers, and by enough to make up for what a thousand-millionth is rounded up by. -/
theorem units_of_lt {r l : Nat} (hl : l < 38) (h : 10 ^ 9 * 2 ^ l < r * 2 ^ 53) :
    nanoUnits * 10 ^ 9 - 2 ^ 82 + 2 ^ 29 + 2 ^ (l + 29) ≤ nanoUnits * r := by
  rw [nanoUnits]
  -- the margin is less than a nanosecond and not the same for all sizes, so each one is tried
  interval_cases l <;> omega

/-- The nanoseconds of `t` are rounded in such a way that it makes no difference to the next
second. -/
theorem roundsUp_iff {t : FileTime} (ht : t.IsProper) :
    t.RoundsUp ↔ 2 ^ 82 - 2 ^ (t.seconds.toNat.log2 + 29) ≤ fractionUnits t.nanos := by
  have hlog : t.seconds.toNat.log2 < 38 := by
    rcases Nat.eq_zero_or_pos t.seconds.toNat with h | h
    · rw [h]
      decide
    · have hdated := ht.dated
      exact (Nat.log2_lt h.ne').2 (by omega)
  have hsplit : t.nanos + (10 ^ 9 - t.nanos) = 10 ^ 9 := Nat.add_sub_cancel' ht.nanos.le
  rw [RoundsUp, fractionUnits]
  generalize t.seconds.toNat.log2 = l at hlog ⊢
  generalize 10 ^ 9 - t.nanos = r at hsplit ⊢
  have hpow : 2 ^ l < 2 ^ 38 := Nat.pow_lt_pow_right one_lt_two hlog
  have hpos := Nat.two_pow_pos l
  rw [show 2 ^ 82 - 2 ^ (l + 29) = (2 ^ 53 - 2 ^ l) * 2 ^ 29 by
    rw [Nat.sub_mul, ← pow_add, ← pow_add]]
  -- rounding keeps the order with numbers of 53 digits, the bound and the one just below it
  constructor
  · intro hup
    refine Binary64.le_keep53 (by omega) 29 ?_
    rw [Nat.sub_mul]
    exact Nat.sub_le_of_le_add (units_of_le hsplit hup)
  · contrapose!
    intro hdown
    have hunits := units_of_lt hlog hdown
    have hle : nanoUnits * t.nanos + (2 ^ l + 1) * 2 ^ 29 ≤ 2 ^ 53 * 2 ^ 29 := by
      rw [pow_add, nanoUnits] at hunits
      rw [nanoUnits]
      omega
    have hbelow : nanoUnits * t.nanos ≤ (2 ^ 53 - (2 ^ l + 1)) * 2 ^ 29 := by
      rw [Nat.sub_mul]
      exact Nat.le_sub_of_add_le hle
    refine (Binary64.keep53_le (by omega) 29 hbelow).trans_lt ?_
    exact (Nat.mul_lt_mul_right (by decide)).2 (by omega)

/-- The time `t` of a file as a floating-point number. -/
theorem is_toFloat {t : FileTime} (ht : t.IsProper) :
    Binary64.Is t.toFloat
      (Binary64.keep53 (t.seconds.toNat * 2 ^ 82 + fractionUnits t.nanos) * 2 ^ (-82 : ℤ)) := by
  obtain ⟨s, hs⟩ := Int.eq_ofNat_of_zero_le ht.nonneg
  have hdated := ht.dated
  have hseconds : Float.ofInt t.seconds = Float.ofNat s := by
    rw [hs]
    rfl
  rw [toFloat, hseconds, hs, Int.toNat_natCast]
  have hsum : (s + fractionUnits t.nanos * 2 ^ (-82 : ℤ) : ℚ) =
      (s * 2 ^ 82 + fractionUnits t.nanos : Nat) * 2 ^ (-82 : ℤ) := by
    have hone : (2 ^ 82 * 2 ^ (-82 : ℤ) : ℚ) = 1 := by norm_num
    rw [Nat.cast_add, Nat.cast_mul, Nat.cast_pow, Nat.cast_ofNat, add_mul, mul_assoc, hone, mul_one]
  refine (Binary64.is_ofNat (by omega)).add (is_fraction ht.nanos) hsum ?_
  have hfraction := fractionUnits_le ht.nanos
  have hle : s * 2 ^ 82 + fractionUnits t.nanos ≤ 2 ^ 38 * 2 ^ 82 := by omega
  have hkeep : (Binary64.keep53 (s * 2 ^ 82 + fractionUnits t.nanos) : ℚ) ≤ 2 ^ 38 * 2 ^ 82 := by
    exact_mod_cast Binary64.keep53_le (by decide) 82 hle
  calc (Binary64.keep53 (s * 2 ^ 82 + fractionUnits t.nanos) * 2 ^ (-82 : ℤ) : ℚ)
      ≤ 2 ^ 38 * 2 ^ 82 * 2 ^ (-82 : ℤ) := mul_le_mul_of_nonneg_right hkeep (by positivity)
    _ = 2 ^ 38 := by norm_num
    _ < 2 ^ 1024 := pow_lt_pow_right₀ one_lt_two (by decide)

/-- **`wholeSeconds` is the second of the time `t`, or the next one** if `t` is rounded up. -/
theorem wholeSeconds_eq {t : FileTime} (ht : t.IsProper) : t.wholeSeconds = t.keySecond := by
  have hdated := ht.dated
  have hnonneg := ht.nonneg
  have hdiv := keep53_div (s := t.seconds.toNat) (by omega) (fractionUnits_le ht.nanos)
  have hunits (k : Nat) : (k * 2 ^ (-82 : ℤ) : ℚ) = k / (2 ^ 82 : Nat) := by
    rw [zpow_neg, ← div_eq_mul_inv]
    norm_cast
  rw [wholeSeconds, (is_toFloat ht).truncate?, Option.getD_some, hunits,
    Rat.floor_natCast_div_natCast, ← Int.natCast_ediv, hdiv, keySecond]
  simp only [← roundsUp_iff ht]
  push_cast
  rw [Int.toNat_of_nonneg hnonneg]

theorem keySecond_nonneg {t : FileTime} (ht : t.IsProper) : 0 ≤ t.keySecond := by
  have hnonneg := ht.nonneg
  rw [keySecond]
  split <;> omega

theorem keySecond_eq_iff {t : FileTime} : t.keySecond = t.seconds ↔ ¬t.RoundsUp := by
  rw [keySecond]
  split <;> simp [*]

end FileTime

/-! ## Keys of seconds -/

namespace DateTime

/-- The beginning of the second `n`, counted from 1970, on the UTC clock. -/
def ofSecond (n : Int) : DateTime := ⟨unixEpoch + n * microsPerSecond, some 0⟩

theorem isDated_ofSecond {n : Int} (h : 0 ≤ n) (hn : n * microsPerSecond < datedMicros) :
    (ofSecond n).IsDated := by
  have hepoch : 0 ≤ unixEpoch := by decide
  have hpos : 0 ≤ n * (microsPerSecond : Int) := mul_nonneg h (by decide)
  rw [datedMicros] at hn
  rw [IsDated, utcWall, ofSecond, Option.getD_some]
  dsimp only
  omega

theorem utcSecond_ofSecond (n : Int) :
    (ofSecond n).utcSecond = unixEpoch / microsPerSecond + n := by
  rw [utcSecond, utcWall, ofSecond, Option.getD_some, sub_zero,
    Int.add_mul_ediv_right _ _ (by decide)]

end DateTime

/-- The key that `x` gives to a dump that was changed in the `second`, counted from 1970. -/
def Executor.keyAt? (x : Executor) (second : Int) : Option String :=
  backupKey? x.config.storage.cleanFolder x.config.redis.nodeName (.ofSecond second)

variable {x : Executor} {r s : Run} {content : ByteArray} {t : FileTime} {key : String}

/-- The seconds `m` and `n` of dates have different keys unless they are the same. -/
theorem Executor.keyAt?_inj {m n : Int} (hm : (DateTime.ofSecond m).IsDated)
    (hn : (DateTime.ofSecond n).IsDated) : x.keyAt? m = x.keyAt? n ↔ m = n := by
  rw [keyAt?, keyAt?, backupKey?_of_isDated _ _ hm, backupKey?_of_isDated _ _ hn, Option.some_inj,
    inFolder_inj, node_stamp_inj, stamp_inj hm hn, DateTime.utcSecond_ofSecond,
    DateTime.utcSecond_ofSecond]
  simp

/-- A cycle that answers with `key` has it from the second that counts for the dump, by
`keySecond`. -/
theorem keyAt?_of_runCycle (ht : t.IsProper)
    (hfind : r.world.files.find x.config.dumpPath = .ok (.file content t))
    (hon : (runCycle x).on r = (.ok (some key), s)) :
    x.keyAt? t.keySecond = some key ∧ (DateTime.ofSecond t.keySecond).IsDated := by
  obtain ⟨content', u, hup⟩ := exists_uploaded?_of_runCycle hon
  obtain ⟨-, changed, time, hgives, htime, hkey⟩ := picks_of_uploaded? hup
  cases hfind.symm.trans hgives.found
  rw [FileTime.wholeSeconds_eq ht] at htime
  have hnonneg := FileTime.keySecond_nonneg ht
  obtain ⟨hdated, rfl⟩ := (DateTime.ofUnixSeconds_eq_ok_iff hnonneg).1 htime
  exact ⟨hkey, DateTime.isDated_ofSecond hnonneg hdated⟩

theorem FileTime.IsProper.isDated (ht : t.IsProper) : (DateTime.ofSecond t.seconds).IsDated := by
  refine DateTime.isDated_ofSecond ht.nonneg ?_
  have hdated := ht.dated
  have hlimit : datedMicros = 253402300800000000 := rfl
  rw [cast_microsPerSecond]
  omega

/-- **The key of a cycle and the second of its dump.**  A cycle that answers with a `key` has
uploaded the dump under it; the key names the second in which the dump was changed just when its
time `t` is not rounded up, and the next second otherwise; and two dumps go to the same key just
when the same second counts for both. -/
theorem key_of_runCycle (ht : t.IsProper)
    (hfind : r.world.files.find x.config.dumpPath = .ok (.file content t))
    (hon : (runCycle x).on r = (.ok (some key), s)) :
    (∃ u, uploaded? x r = some (key, content, u)) ∧ x.keyAt? t.keySecond = some key ∧
      (x.keyAt? t.seconds = some key ↔ ¬t.RoundsUp) ∧
      ∀ {r' s' : Run} {content' : ByteArray} {t' : FileTime} {key' : String}, t'.IsProper →
        r'.world.files.find x.config.dumpPath = .ok (.file content' t') →
        (runCycle x).on r' = (.ok (some key'), s') → (key = key' ↔ t.keySecond = t'.keySecond) := by
  obtain ⟨hkey, hdated⟩ := keyAt?_of_runCycle ht hfind hon
  refine ⟨?_, hkey, ?_, ?_⟩
  · obtain ⟨content', u, hup⟩ := exists_uploaded?_of_runCycle hon
    obtain ⟨-, changed, time, hgives, -⟩ := picks_of_uploaded? hup
    cases hfind.symm.trans hgives.found
    exact ⟨u, hup⟩
  · rw [← hkey, Executor.keyAt?_inj ht.isDated hdated, eq_comm, FileTime.keySecond_eq_iff]
  · intro r' s' content' t' key' ht' hfind' hon'
    obtain ⟨hkey', hdated'⟩ := keyAt?_of_runCycle ht' hfind' hon'
    rw [← x.keyAt?_inj hdated hdated', hkey, hkey', Option.some_inj]

/-- The key of a dump that was changed at noon. -/
def noonKey : String := "backups/a_2024-01-15T12:00:00Z.rdb"

/-- The key of a dump that was changed a second after noon. -/
def afterNoonKey : String := "backups/a_2024-01-15T12:00:01Z.rdb"

theorem exists_runCycle_shortlyAfter (content : ByteArray) (changed : FileTime) {d : DateTime}
    (hd : DateTime.ofUnixSeconds changed.wholeSeconds = .ok d)
    (hkey : backupKey? "backups" "a" d = some key) :
    ∃ s, (runCycle (.keeping "backups" "a" 1)).on (.holding content changed 1705320005 []) =
      (.ok (some key), s) := by
  have hnow : DateTime.ofReading (.whole 1705320005) = .ok ⟨63840916805000000, some 0⟩ := rfl
  obtain ⟨s, -, hs, -⟩ :=
    exists_runCycle_keeping "backups" "a" 1 content Objects.datable_nil hd hkey hnow
  exact ⟨s, hs⟩

/-- A dump from half a second past noon goes to `noonKey`. -/
theorem key_of_runCycle_halfPast :
    ∃ s, (runCycle (.keeping "backups" "a" 1)).on
        (.holding (.mk #[1]) ⟨1705320000, 500000000⟩ 1705320005 []) = (.ok (some noonKey), s) ∧
      (Executor.keeping "backups" "a" 1).keyAt? 1705320000 = some noonKey := by
  have htime : DateTime.ofUnixSeconds (FileTime.wholeSeconds ⟨1705320000, 500000000⟩) =
      .ok ⟨63840916800000000, some 0⟩ := by decide +kernel
  have hkey : backupKey? "backups" "a" ⟨63840916800000000, some 0⟩ = some noonKey := by
    decide +kernel
  obtain ⟨s, hs⟩ := exists_runCycle_shortlyAfter (.mk #[1]) _ htime hkey
  have ht : FileTime.IsProper ⟨1705320000, 500000000⟩ := ⟨by decide, by decide, by decide⟩
  have hfind : (Run.holding (.mk #[1]) ⟨1705320000, 500000000⟩ 1705320005 []).world.files.find
      (Executor.keeping "backups" "a" 1).config.dumpPath =
        .ok (.file (.mk #[1]) ⟨1705320000, 500000000⟩) := find_holding rfl rfl _ _
  exact ⟨s, hs, (key_of_runCycle ht hfind hs).2.2.1.2 (by decide)⟩

/-- **A dump from the last nanosecond of a second goes to the key of the next second**,
`afterNoonKey`, and so to that of a dump from the next second. -/
theorem nextKey_of_lastNano :
    FileTime.IsProper ⟨1705320000, 999999999⟩ ∧
      (Executor.keeping "backups" "a" 1).keyAt? 1705320000 = some noonKey ∧
      noonKey ≠ afterNoonKey ∧
      (∃ s, (runCycle (.keeping "backups" "a" 1)).on
        (.holding (.mk #[1]) ⟨1705320000, 999999999⟩ 1705320005 []) =
          (.ok (some afterNoonKey), s)) ∧
      ∃ s, (runCycle (.keeping "backups" "a" 1)).on
        (.holding (.mk #[2]) ⟨1705320001, 0⟩ 1705320005 []) = (.ok (some afterNoonKey), s) := by
  have hlast : DateTime.ofUnixSeconds (FileTime.wholeSeconds ⟨1705320000, 999999999⟩) =
      .ok ⟨63840916801000000, some 0⟩ := by decide +kernel
  have hnext : DateTime.ofUnixSeconds (FileTime.wholeSeconds ⟨1705320001, 0⟩) =
      .ok ⟨63840916801000000, some 0⟩ := by decide +kernel
  have hkey : backupKey? "backups" "a" ⟨63840916801000000, some 0⟩ = some afterNoonKey := by
    decide +kernel
  exact ⟨⟨by decide, by decide, by decide⟩, by decide +kernel, by decide,
    exists_runCycle_shortlyAfter _ _ hlast hkey, exists_runCycle_shortlyAfter _ _ hnext hkey⟩

end DumpKeeper
