import DumpKeeper.Proofs.Stamp
import Mathlib.Data.String.Basic

/-!
# Keys in the order of time

The keys of one node, sorted as texts, are sorted by time.  The numbers of a stamp stand in the
order of their weight and have fixed widths from the year 1000 on, and texts of one length are
compared part by part; so a stamp is compared as year, month, day, hour, minute and second are,
one after the other.  What is left is the calendar: the date of a later day is a later date.

* `append_lt_append_iff` — texts of the same length are compared before what stands behind them.
* `padded_lt_iff` — digits of one width are compared as the numbers are.
* `Date.ofDay_earlier` — the date of an earlier day is an earlier date.
* `stamp_lt_stamp` — the stamp of an earlier second is a lesser text.
* `backupKey?_chronological` — the keys of a node are compared as the seconds are.
-/

set_option autoImplicit false

namespace DumpKeeper

open Duration (padded)

/-! ## Texts of one length -/

/-- The lists `l₁` and `l₂` of the same length are compared before what stands behind them. -/
theorem append_lt_append_iff {α : Type} [LinearOrder α] {l₁ l₂ r₁ r₂ : List α}
    (h : l₁.length = l₂.length) : l₁ ++ r₁ < l₂ ++ r₂ ↔ l₁ < l₂ ∨ l₁ = l₂ ∧ r₁ < r₂ := by
  induction l₁ generalizing l₂ with
  | nil =>
    rw [List.eq_nil_of_length_eq_zero h.symm]
    simp
  | cons a l₁ ih =>
    cases l₂ with
    | nil => cases h
    | cons b l₂ =>
      rw [List.cons_append, List.cons_append, List.cons_lt_cons_iff, List.cons_lt_cons_iff,
        ih (Nat.succ.inj h), List.cons.injEq, or_assoc, and_or_left, and_assoc]

/-- What two texts begin with in common, `a`, does not count. -/
theorem append_lt_append_left_iff (a : String) {b c : String} : a ++ b < a ++ c ↔ b < c := by
  rw [String.lt_iff_toList_lt, String.lt_iff_toList_lt, String.toList_append, String.toList_append,
    append_lt_append_iff rfl]
  simp

/-! ## Numbers of one width -/

theorem digitChar_lt_iff {m n : Nat} (hm : m < 10) (hn : n < 10) :
    m.digitChar < n.digitChar ↔ m < n := by
  have hall : ∀ i < 10, ∀ j < 10, i.digitChar < j.digitChar ↔ i < j := by decide
  exact hall m hm n hn

/-- The last digit of `n` behind the others. -/
theorem padded_succ {width : Nat} (hwidth : 0 < width) (n : Nat) :
    (padded (width + 1) n).toList = (padded width (n / 10)).toList ++ [(n % 10).digitChar] := by
  rw [padded, padded, String.toList_ofList, String.toList_ofList]
  rcases Nat.lt_or_ge n 10 with hn | hn
  · obtain ⟨width, rfl⟩ := Nat.exists_eq_succ_of_ne_zero hwidth.ne'
    rw [Nat.div_eq_of_lt hn, Nat.mod_eq_of_lt hn, Nat.toDigits_of_lt_base hn,
      Nat.toDigits_of_lt_base (by decide : 0 < 10)]
    simp [List.replicate_succ']
  · rw [Nat.toDigits_of_base_le (by decide) hn, List.length_append, List.length_singleton,
      Nat.add_sub_add_right, List.append_assoc]

theorem padded_one {n : Nat} (hn : n < 10) : (padded 1 n).toList = [n.digitChar] := by
  rw [padded, String.toList_ofList, Nat.toDigits_of_lt_base hn]
  rfl

theorem length_padded {width n : Nat} (hwidth : 0 < width) (hn : n < 10 ^ width) :
    (padded width n).toList.length = width := by
  have hlength := (Nat.length_toDigits_le_iff (by decide) hwidth).2 hn
  rw [padded, String.toList_ofList, List.length_append, List.length_replicate]
  omega

/-- A number with more than `width` digits is not `padded` to one more. -/
theorem padded_of_le {width n : Nat} (hwidth : 0 < width) (hn : 10 ^ width ≤ n) :
    padded 1 n = padded (width + 1) n := by
  have hlength := mt (Nat.length_toDigits_le_iff (by decide) hwidth).1 (Nat.not_lt.2 hn)
  rw [padded, padded, Nat.sub_eq_zero_of_le (by omega), Nat.sub_eq_zero_of_le (by omega)]

/-- **Digits of one `width` are compared as the numbers are.** -/
theorem padded_lt_iff {width m n : Nat} (hwidth : 0 < width) (hm : m < 10 ^ width)
    (hn : n < 10 ^ width) : (padded width m).toList < (padded width n).toList ↔ m < n := by
  induction width, hwidth using Nat.le_induction generalizing m n with
  | base =>
    rw [pow_one] at hm hn
    rw [padded_one hm, padded_one hn, List.cons_lt_cons_iff, digitChar_lt_iff hm hn]
    simp
  | succ width hwidth ih =>
    rw [pow_succ] at hm hn
    have hm' : m / 10 < 10 ^ width := Nat.div_lt_of_lt_mul (by omega)
    have hn' : n / 10 < 10 ^ width := Nat.div_lt_of_lt_mul (by omega)
    have hlength : (padded width (m / 10)).toList.length = (padded width (n / 10)).toList.length :=
      by rw [length_padded hwidth hm', length_padded hwidth hn']
    have hlast : [(m % 10).digitChar] < [(n % 10).digitChar] ↔ m % 10 < n % 10 := by
      rw [List.cons_lt_cons_iff, digitChar_lt_iff (Nat.mod_lt _ (by decide))
        (Nat.mod_lt _ (by decide))]
      simp
    rw [padded_succ hwidth, padded_succ hwidth, append_lt_append_iff hlength, ih hm' hn',
      String.toList_inj, padded_inj, hlast]
    omega

/-- The numbers `m` and `n` count before what stands behind them. -/
theorem padded_append_cons_lt_iff {width m n : Nat} (hwidth : 0 < width) (hm : m < 10 ^ width)
    (hn : n < 10 ^ width) {c : Char} {r₁ r₂ : List Char} :
    (padded width m).toList ++ c :: r₁ < (padded width n).toList ++ c :: r₂ ↔
      m < n ∨ m = n ∧ r₁ < r₂ := by
  rw [append_lt_append_iff (by rw [length_padded hwidth hm, length_padded hwidth hn]),
    padded_lt_iff hwidth hm hn, String.toList_inj, padded_inj, List.cons_lt_cons_iff]
  simp

/-! ## Dates -/

namespace Date

/-- The date `d` is earlier than `e`: by the year, in one year by the month, and in one month by the
day. -/
def Earlier (d e : Date) : Prop :=
  d.year < e.year ∨ d.year = e.year ∧ (d.month < e.month ∨ d.month = e.month ∧ d.day < e.day)

/-- A later day of the same months, `j`, is in a later month, or later in the same one. -/
theorem inMonths_lt (m : Nat) (lengths : List Nat) {i j : Nat} (h : i < j) :
    (inMonths m lengths i).1 < (inMonths m lengths j).1 ∨
      (inMonths m lengths i).1 = (inMonths m lengths j).1 ∧
        (inMonths m lengths i).2 < (inMonths m lengths j).2 := by
  fun_induction inMonths m lengths i generalizing j with
  | case1 m i => exact .inr ⟨rfl, Nat.succ_lt_succ h⟩
  | case2 m k i => exact .inr ⟨rfl, Nat.succ_lt_succ h⟩
  | case3 m k l rest i hi =>
    rw [inMonths]
    split
    · exact .inr ⟨rfl, Nat.succ_lt_succ h⟩
    · exact .inl (inMonths_spec (m + 1) (l :: rest) (j - k)).1
  | case4 m k l rest i hi ih =>
    rw [inMonths, if_neg (by omega)]
    exact ih (by omega)

/-- The length of the year `y`. -/
theorem daysBefore_succ {y : Nat} (hy : 1 ≤ y) :
    daysBefore (y + 1) = daysBefore y + if isLeap y then 366 else 365 := by
  obtain ⟨x, rfl⟩ := Nat.exists_eq_add_of_le' hy
  have hstep : ∀ k, (x + 1) / k = x / k + if (x + 1) % k = 0 then 1 else 0 := by
    intro k
    rw [Nat.succ_div]
    simp only [Nat.dvd_iff_mod_eq_zero]
  have hcentury : (x + 1) % 100 = 0 → (x + 1) % 4 = 0 := by omega
  have hfourth : (x + 1) % 400 = 0 → (x + 1) % 100 = 0 := by omega
  have hless : x / 100 ≤ x / 4 := by omega
  simp only [isLeap, Bool.and_eq_true, Bool.or_eq_true, beq_iff_eq, bne_iff_ne, daysBefore,
    Nat.add_sub_cancel, hstep]
  split_ifs <;> omega

/-- The year `y` is as long as its months together. -/
theorem foldr_monthLengths (y : Nat) :
    (monthLengths y).foldr (· + ·) 0 = if isLeap y then 366 else 365 := by
  simp only [monthLengths, List.foldr_cons, List.foldr_nil]
  split <;> rfl

theorem monotone_daysBefore : Monotone daysBefore :=
  monotone_nat_of_le_succ fun y => by
    simp only [daysBefore]
    omega

/-- **The date of an earlier day is an earlier date**, by `Date.Earlier`. -/
theorem ofDay_earlier {m n : Nat} (h : m < n) : (ofDay m).Earlier (ofDay n) := by
  rcases Nat.lt_trichotomy (yearOf m) (yearOf n) with hyear | hyear | hyear
  · exact .inl hyear
  · refine .inr ⟨hyear, ?_⟩
    have hstart := (yearOf_bounds m).1
    simp only [ofDay, ← hyear]
    exact inMonths_lt 1 _ (by omega)
  · -- the whole year of the later day would be over before the year of the earlier one
    have hover := monotone_daysBefore (Nat.succ_le_of_lt hyear)
    have hm := (yearOf_bounds m).1
    have hn := (yearOf_bounds n).2
    rw [Nat.succ_eq_add_one] at hover
    omega

/-- Month and day, as `inMonths` finds them, are among the given months and their days. -/
theorem inMonths_bounds (m : Nat) (lengths : List Nat) {n : Nat}
    (h : n < lengths.foldr (· + ·) 0) :
    (inMonths m lengths n).1 < m + lengths.length ∧
      ∃ k ∈ lengths, (inMonths m lengths n).2 ≤ k := by
  fun_induction inMonths m lengths n with
  | case1 m n => exact absurd h (Nat.not_lt_zero n)
  | case2 m k n =>
    rw [List.foldr_cons, List.foldr_nil] at h
    exact ⟨Nat.lt_succ_self m, k, List.mem_singleton_self k, h⟩
  | case3 m k l rest n hn =>
    exact ⟨by simp, k, List.mem_cons_self, hn⟩
  | case4 m k l rest n hn ih =>
    obtain ⟨hmonth, length, hmem, hday⟩ := ih (by rw [List.foldr_cons] at h; omega)
    rw [List.length_cons]
    exact ⟨by omega, length, List.mem_cons_of_mem k hmem, hday⟩

/-- Month and day of the date `ofDay n` have two digits at most. -/
theorem ofDay_bounds (n : Nat) : (ofDay n).month ≤ 12 ∧ (ofDay n).day ≤ 31 := by
  have hlength := daysBefore_succ (one_le_yearOf n)
  rw [← foldr_monthLengths] at hlength
  obtain ⟨hstart, hend⟩ := yearOf_bounds n
  obtain ⟨hmonth, k, hk, hday⟩ :=
    inMonths_bounds 1 (monthLengths (yearOf n)) (n := n - daysBefore (yearOf n)) (by omega)
  have hlongest : k ≤ 31 := by
    have hall : ∀ l ∈ monthLengths (yearOf n), l ≤ 31 := by
      cases hleap : isLeap (yearOf n) <;> simp [monthLengths, hleap]
    exact hall k hk
  exact ⟨Nat.le_of_lt_succ hmonth, hday.trans hlongest⟩

end Date

/-! ## Stamps -/

namespace DateTime

/-- The UTC clock shows a year of four digits at the instant `t`: one of the years 1000 to 9999. -/
def HasLongYear (t : DateTime) : Prop := t.IsDated ∧ 1000 ≤ t.atSecond.date.year

instance (t : DateTime) : Decidable t.HasLongYear :=
  inferInstanceAs (Decidable (t.IsDated ∧ 1000 ≤ t.atSecond.date.year))

theorem year_lt_of_isDated {t : DateTime} (h : t.IsDated) : t.atSecond.date.year < 10000 := by
  have hwall : t.atSecond.wall < wallLimit := by
    have hlimit := h.2
    rw [wall_atSecond, utcSecond, cast_microsPerSecond]
    omega
  have hday : (t.atSecond.wall / microsPerDay).toNat < dayLimit := by
    have hlimit : 0 < dayLimit := by decide
    rw [wallLimit, cast_microsPerDay] at hwall
    rw [cast_microsPerDay]
    omega
  by_contra hyear
  have hstart := Date.monotone_daysBefore (Nat.not_lt.1 hyear)
  have hbounds := (Date.yearOf_bounds (t.atSecond.wall / microsPerDay).toNat).1
  exact absurd (hstart.trans hbounds) (Nat.not_le.2 hday)

theorem hour_lt (t : DateTime) : t.hour < 24 := by
  rw [hour, cast_microsPerDay]
  omega

theorem minute_lt (t : DateTime) : t.minute < 60 := by
  rw [minute]
  omega

theorem second_lt (t : DateTime) : t.second < 60 := by
  rw [second, cast_microsPerSecond]
  omega

/-- Of two whole seconds, the earlier one, that of `s`, has the earlier date, or on one day the
lesser hands. -/
theorem hands_lt {s t : DateTime} (hs : s.IsDated) (ht : t.IsDated)
    (h : s.utcSecond < t.utcSecond) :
    s.atSecond.date.Earlier t.atSecond.date ∨ s.atSecond.date = t.atSecond.date ∧
      (s.atSecond.hour < t.atSecond.hour ∨ s.atSecond.hour = t.atSecond.hour ∧
        (s.atSecond.minute < t.atSecond.minute ∨ s.atSecond.minute = t.atSecond.minute ∧
          s.atSecond.second < t.atSecond.second)) := by
  have hwall : s.atSecond.wall < t.atSecond.wall := by
    rw [wall_atSecond, wall_atSecond, cast_microsPerSecond]
    omega
  have hday : (s.atSecond.wall / microsPerDay).toNat ≤ (t.atSecond.wall / microsPerDay).toNat :=
    Int.toNat_le_toNat (Int.ediv_le_ediv (by decide) hwall.le)
  rcases hday.lt_or_eq with hlt | heq
  · exact .inl (Date.ofDay_earlier hlt)
  · refine .inr ⟨congrArg Date.ofDay heq, ?_⟩
    have hsum := wall_eq_fields (wall_atSecond_nonneg hs)
    have hsum' := wall_eq_fields (wall_atSecond_nonneg ht)
    rw [wall_atSecond_emod, cast_microsPerSecond] at hsum hsum'
    rw [heq] at hsum
    have hminute := s.atSecond.minute_lt
    have hminute' := t.atSecond.minute_lt
    have hsecond := s.atSecond.second_lt
    have hsecond' := t.atSecond.second_lt
    omega

/-- The numbers that the clock `t` shows fit into their places in a stamp. -/
structure FitsStamp (t : DateTime) : Prop where
  year : t.date.year < 10 ^ 4
  month : t.date.month < 10 ^ 2
  day : t.date.day < 10 ^ 2
  hour : t.hour < 10 ^ 2
  minute : t.minute < 10 ^ 2
  second : t.second < 10 ^ 2

theorem fitsStamp_atSecond {t : DateTime} (h : t.IsDated) : t.atSecond.FitsStamp := by
  obtain ⟨hmonth, hday⟩ := Date.ofDay_bounds (t.atSecond.wall / microsPerDay).toNat
  exact
    { year := year_lt_of_isDated h
      month := hmonth.trans_lt (by decide)
      day := hday.trans_lt (by decide)
      hour := t.atSecond.hour_lt.trans (by decide)
      minute := t.atSecond.minute_lt.trans (by decide)
      second := t.atSecond.second_lt.trans (by decide) }

end DateTime

/-- The stamp of `t` with a year of four digits, all of its numbers padded to their widths. -/
theorem toList_stamp_of_hasLongYear {t : DateTime} (h : t.HasLongYear) :
    (stamp t.atSecond).toList = (padded 4 t.atSecond.date.year).toList ++
      '-' :: ((padded 2 t.atSecond.date.month).toList ++
      '-' :: ((padded 2 t.atSecond.date.day).toList ++
      'T' :: ((padded 2 t.atSecond.hour).toList ++ ':' :: ((padded 2 t.atSecond.minute).toList ++
      ':' :: ((padded 2 t.atSecond.second).toList ++ ['Z']))))) := by
  rw [toList_stamp, padded_of_le (by decide : 0 < 3) h.2]

/-- Every `stamp` with a year of four digits has twenty letters. -/
theorem length_stamp {t : DateTime} (h : t.HasLongYear) : (stamp t.atSecond).length = 20 := by
  have hfits := DateTime.fitsStamp_atSecond h.1
  rw [← String.length_toList, toList_stamp_of_hasLongYear h]
  simp only [List.length_append, List.length_cons, List.length_nil,
    length_padded (by decide) hfits.year, length_padded (by decide) hfits.month,
    length_padded (by decide) hfits.day, length_padded (by decide) hfits.hour,
    length_padded (by decide) hfits.minute, length_padded (by decide) hfits.second]

/-- **The stamp of an earlier second is a lesser text**: that of `s`, if it falls in an earlier
second than `t`. -/
theorem stamp_lt_stamp {s t : DateTime} (hs : s.HasLongYear) (ht : t.HasLongYear)
    (h : s.utcSecond < t.utcSecond) : stamp s.atSecond < stamp t.atSecond := by
  have hfits := DateTime.fitsStamp_atSecond hs.1
  have hfits' := DateTime.fitsStamp_atSecond ht.1
  rw [String.lt_iff_toList_lt, toList_stamp_of_hasLongYear hs, toList_stamp_of_hasLongYear ht,
    padded_append_cons_lt_iff (by decide) hfits.year hfits'.year,
    padded_append_cons_lt_iff (by decide) hfits.month hfits'.month,
    padded_append_cons_lt_iff (by decide) hfits.day hfits'.day,
    padded_append_cons_lt_iff (by decide) hfits.hour hfits'.hour,
    padded_append_cons_lt_iff (by decide) hfits.minute hfits'.minute,
    padded_append_cons_lt_iff (by decide) hfits.second hfits'.second]
  rcases DateTime.hands_lt hs.1 ht.1 h with hdate | ⟨hdate, hhands⟩
  · rcases hdate with hyear | ⟨hyear, hmonth | ⟨hmonth, hday⟩⟩
    · exact .inl hyear
    · exact .inr ⟨hyear, .inl hmonth⟩
    · exact .inr ⟨hyear, .inr ⟨hmonth, .inl hday⟩⟩
  · rw [hdate]
    refine .inr ⟨rfl, .inr ⟨rfl, .inr ⟨rfl, ?_⟩⟩⟩
    rcases hhands with hhour | ⟨hhour, hminute | ⟨hminute, hsecond⟩⟩
    · exact .inl hhour
    · exact .inr ⟨hhour, .inl hminute⟩
    · exact .inr ⟨hhour, .inr ⟨hminute, .inl hsecond⟩⟩

/-- The stamps of `s` and `t` are compared as the seconds are. -/
theorem stamp_lt_iff {s t : DateTime} (hs : s.HasLongYear) (ht : t.HasLongYear) :
    stamp s.atSecond < stamp t.atSecond ↔ s.utcSecond < t.utcSecond := by
  refine ⟨fun h => ?_, stamp_lt_stamp hs ht⟩
  rcases lt_trichotomy s.utcSecond t.utcSecond with hlt | heq | hgt
  · exact hlt
  · rw [(stamp_inj hs.1 ht.1).2 heq] at h
    exact absurd h (lt_irrefl _)
  · exact absurd h (stamp_lt_stamp ht hs hgt).asymm

/-! ## Keys -/

theorem inFolder_append (folder a b : String) :
    inFolder folder (a ++ b) = inFolder folder a ++ b := by
  rw [inFolder, inFolder]
  split
  · rfl
  · exact String.append_assoc.symm

/-- A key is the `nodeFolder` of its node with a stamp behind it. -/
theorem backupKey?_eq_nodeFolder_append (folder node : String) {t : DateTime} (ht : t.IsDated) :
    backupKey? folder node t = some (nodeFolder folder node ++ (stamp t.atSecond ++ ".rdb")) := by
  rw [backupKey?_of_isDated folder node ht, String.append_assoc, inFolder_append, nodeFolder]

/-- **Keys sort chronologically.**  Of two dumps of one `node` that were changed at `s` and `t`, in
the years 1000 to 9999 of UTC, the key of the first is the lesser text if and only if its second is
the earlier one, the keys are the same if and only if the seconds are, and both have the same
length. -/
theorem backupKey?_chronological (folder node : String) {s t : DateTime} (hs : s.HasLongYear)
    (ht : t.HasLongYear) :
    ∃ key other, backupKey? folder node s = some key ∧ backupKey? folder node t = some other ∧
      (key < other ↔ s.utcSecond < t.utcSecond) ∧ (key = other ↔ s.utcSecond = t.utcSecond) ∧
      key.length = (nodeFolder folder node).length + 24 ∧
      other.length = (nodeFolder folder node).length + 24 := by
  have hlength : (stamp s.atSecond).toList.length = (stamp t.atSecond).toList.length := by
    rw [String.length_toList, String.length_toList, length_stamp hs, length_stamp ht]
  have hlt : stamp s.atSecond ++ ".rdb" < stamp t.atSecond ++ ".rdb" ↔
      stamp s.atSecond < stamp t.atSecond := by
    rw [String.lt_iff_toList_lt, String.toList_append, String.toList_append,
      append_lt_append_iff hlength, String.lt_iff_toList_lt]
    simp
  refine ⟨_, _, backupKey?_eq_nodeFolder_append folder node hs.1,
    backupKey?_eq_nodeFolder_append folder node ht.1, ?_, ?_, ?_, ?_⟩
  · rw [append_lt_append_left_iff, hlt, stamp_lt_iff hs ht]
  · rw [String.append_right_inj, String.append_left_inj, stamp_inj hs.1 ht.1]
  · rw [String.length_append, String.length_append, length_stamp hs]
    rfl
  · rw [String.length_append, String.length_append, length_stamp ht]
    rfl

/-- The keys of two dumps: from the last moments of a leap day, told by a clock of unknown offset,
and from the first ones of March, told by a clock an hour ahead of UTC. -/
theorem backupKey?_chronological_leapDay :
    ∃ key other, backupKey? "vault" "cache" ⟨63844847999900000, none⟩ = some key ∧
      backupKey? "vault" "cache" ⟨63844851600000000, some 3600000000⟩ = some other ∧
      key < other ∧ key.length = 36 ∧ other.length = 36 := by
  have hs : (⟨63844847999900000, none⟩ : DateTime).HasLongYear := by decide
  have ht : (⟨63844851600000000, some 3600000000⟩ : DateTime).HasLongYear := by decide
  obtain ⟨key, other, hkey, hother, hlt, -, hlength, hlength'⟩ :=
    backupKey?_chronological "vault" "cache" hs ht
  exact ⟨key, other, hkey, hother, hlt.2 (by decide), hlength, hlength'⟩

end DumpKeeper
