import DumpKeeper.DateTime.Reading
import DumpKeeper.Proofs.Chronology

/-!
# Stamps read again

A stamp spells a point in time in a way that `DateTime.ofIso?` can read, as long as its year has
four digits: every number of it is padded to the width that `fixed?` takes off, and the letters
between them are those that `behind?` asks for.  What is read is the second that the stamp was made
for.

* `DateTime.fixed?_padded` — a padded number is taken off a text.
* `Date.isValid_ofDay` — the date of a day is one that can be read.
* `DateTime.ofIso?_stamp` — a stamp can be read again.
-/

set_option autoImplicit false

namespace DumpKeeper

open Duration (padded)

/-! ## Dates -/

namespace Date

/-- The day of a month, from one, is none of the next month. -/
theorem inMonths_day (m : Nat) (lengths : List Nat) {n : Nat}
    (h : n < lengths.foldr (· + ·) 0) :
    m ≤ (inMonths m lengths n).1 ∧ 1 ≤ (inMonths m lengths n).2 ∧
      (inMonths m lengths n).2 ≤ lengths.getD ((inMonths m lengths n).1 - m) 0 := by
  fun_induction inMonths m lengths n with
  | case1 m n => exact absurd h (Nat.not_lt_zero n)
  | case2 m k n =>
    rw [List.foldr_cons, List.foldr_nil] at h
    simp only [Nat.sub_self, List.getD_cons_zero]
    omega
  | case3 m k l rest n hn =>
    simp only [Nat.sub_self, List.getD_cons_zero]
    omega
  | case4 m k l rest n hn ih =>
    obtain ⟨hmonth, hday, hlength⟩ := ih (by rw [List.foldr_cons] at h; omega)
    refine ⟨by omega, hday, ?_⟩
    generalize (inMonths (m + 1) (l :: rest) (n - k)).1 = month at hmonth hlength ⊢
    rwa [show month - m = month - (m + 1) + 1 by omega, List.getD_cons_succ]

/-- **The date `ofDay n` is valid** in the years 1 to 9999. -/
theorem isValid_ofDay {n : Nat} (h : (ofDay n).year < 10000) : (ofDay n).isValid = true := by
  have hlength := daysBefore_succ (one_le_yearOf n)
  rw [← foldr_monthLengths] at hlength
  obtain ⟨hstart, hend⟩ := yearOf_bounds n
  obtain ⟨hmonth, hday, hlast⟩ :=
    inMonths_day 1 (monthLengths (yearOf n)) (n := n - daysBefore (yearOf n)) (by omega)
  have hyear : yearOf n ≤ 9999 := Nat.le_of_lt_succ h
  have hfirst := one_le_yearOf n
  have htwelve := (ofDay_bounds n).1
  simp only [isValid, Bool.and_eq_true, decide_eq_true_eq]
  exact ⟨⟨⟨⟨⟨hfirst, hyear⟩, hmonth⟩, htwelve⟩, hday⟩, hlast⟩

end Date

/-! ## Numbers and marks -/

namespace DateTime

theorem natOfDigits_padded (width n : Nat) :
    Text.natOfDigits ((padded width n).toList.map fun c => c.toNat - 48) = n := by
  have hchars := ofDigitChars_padded width n
  rwa [Nat.ofDigitChars, ← List.foldl_map] at hchars

/-- **A padded number is taken off a text** by `fixed?`. -/
theorem fixed?_padded {width n : Nat} (hwidth : 0 < width) (hn : n < 10 ^ width)
    (rest : List Char) : fixed? width ((padded width n).toList ++ rest) = some (n, rest) := by
  have hlength := length_padded hwidth hn
  have hdigits : (padded width n).toList.all Char.isDigit = true := by
    rw [List.all_eq_true]
    intro c hc
    by_contra hnot
    exact notMem_padded (Bool.not_eq_true _ ▸ hnot) _ _ hc
  rw [fixed?, List.take_left' hlength, List.drop_left' hlength]
  rw [if_pos ⟨hlength, hdigits⟩, natOfDigits_padded]

theorem behind?_cons {marks : List Char} {c : Char} (h : marks.contains c = true)
    (rest : List Char) : behind? marks (c :: rest) = some rest := if_pos h

/-! ## Stamps -/

variable {t : DateTime}

theorem date?_stamp (h : t.HasLongYear) (rest : List Char) :
    date? ((padded 4 t.atSecond.date.year).toList ++ '-' ::
      ((padded 2 t.atSecond.date.month).toList ++ '-' ::
        ((padded 2 t.atSecond.date.day).toList ++ rest))) = some (t.atSecond.date, rest) := by
  have hfits := fitsStamp_atSecond h.1
  have hvalid : t.atSecond.date.isValid = true := Date.isValid_ofDay (year_lt_of_isDated h.1)
  simp only [date?, fixed?_padded (by decide) hfits.year, fixed?_padded (by decide) hfits.month,
    fixed?_padded (by decide) hfits.day, Option.bind_eq_bind, Option.bind_some,
    behind?_cons (by decide : ['-'].contains '-' = true)]
  exact if_pos hvalid

theorem clockTime?_padded {h m s : Nat} (hh : h < 24) (hm : m < 60) (hs : s < 60) :
    clockTime? ((padded 2 h).toList ++ ':' :: ((padded 2 m).toList ++ ':' ::
      ((padded 2 s).toList ++ ['Z']))) = some (((h * 60 + m) * 60 + s) * 1000000, ['Z']) := by
  have hcolon := behind?_cons (by decide : [':'].contains ':' = true)
  have hutc : fraction ['Z'] = (0, ['Z']) := rfl
  rw [clockTime?, fixed?_padded (by decide) (hh.trans (by decide : 24 < 10 ^ 2))]
  simp only [Option.bind_eq_bind, Option.bind_some, hcolon]
  rw [fixed?_padded (by decide) (hm.trans (by decide : 60 < 10 ^ 2))]
  simp only [Option.bind_some, hcolon]
  rw [fixed?_padded (by decide) (hs.trans (by decide : 60 < 10 ^ 2))]
  rw [Option.bind_some, hutc, if_pos ⟨hh, hm, hs⟩, Nat.add_zero]

/-- **A stamp can be read again** by `ofIso?`: it gives the second that it was made for. -/
theorem ofIso?_stamp (h : t.HasLongYear) : ofIso? (stamp t.atSecond) = some t.atSecond := by
  have hnonneg := wall_atSecond_nonneg h.1
  have hwall := wall_eq_fields hnonneg
  rw [wall_atSecond_emod, cast_microsPerSecond] at hwall
  have hlimit : t.atSecond.wall < wallLimit := by
    have hutc := h.1.2
    rw [wall_atSecond, utcSecond, cast_microsPerSecond]
    omega
  have hday : t.atSecond.date.toDay = (t.atSecond.wall / microsPerDay).toNat := Date.toDay_ofDay _
  have hread : (t.atSecond.date.toDay : Int) * microsPerDay +
      (((t.atSecond.hour * 60 + t.atSecond.minute) * 60 + t.atSecond.second) * 1000000 : Nat) =
        t.atSecond.wall := by
    rw [hday]
    omega
  rw [ofIso?, toList_stamp_of_hasLongYear h, date?_stamp h]
  simp only [Option.bind_eq_bind, Option.bind_some]
  rw [behind?_cons (by decide : ['T', ' '].contains 'T' = true), Option.bind_some,
    clockTime?_padded t.atSecond.hour_lt t.atSecond.minute_lt t.atSecond.second_lt]
  have hutc : offset? ['Z'] = some (some 0) := rfl
  rw [Option.bind_some, hutc, Option.bind_some]
  dsimp only
  rw [hread, ofWall?, if_pos ⟨hnonneg, hlimit⟩]
  rfl

end DateTime

end DumpKeeper
