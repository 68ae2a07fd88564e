import DumpKeeper.Proofs.Calendar
import DumpKeeper.Proofs.ObjectKey

/-!
# What a key tells

The parts of a key can be told apart again, however the node is called.  A stamp has no underscore,
so the last underscore of a key stands between the name of the node and the stamp; and the numbers
of a stamp have digits only, so whatever stands between two of them ends the first one, be it padded
or not.  From its numbers the second is known.

* `append_cons_inj_of_notMem_left`, `append_cons_inj_of_notMem_right` — there is one way to cut a
  text at its first letter of a kind, and one to cut it at its last.
* `padded_inj`, `stamp_inj` — a number is known from its digits, a second from its stamp.
* `inFolder_append_slashes` — slashes at the end of a folder do not count.
* `backupKey?_exact` — which keys are the same, and which ones the folder of a node matches.
-/

set_option autoImplicit false

namespace DumpKeeper

open Duration (padded)

/-! ## Cuts -/

/-- There is one way to cut a list at the first place where `c` stands. -/
theorem append_cons_inj_of_notMem_left {α : Type} {c : α} {l₁ l₂ r₁ r₂ : List α} (h₁ : c ∉ l₁)
    (h₂ : c ∉ l₂) : l₁ ++ c :: r₁ = l₂ ++ c :: r₂ ↔ l₁ = l₂ ∧ r₁ = r₂ := by
  constructor
  · intro h
    -- the shorter of both beginnings is followed by `c`, which the longer one does not have
    rcases List.append_eq_append_iff.1 h with ⟨between, rfl, hr⟩ | ⟨between, rfl, hr⟩
    · cases between with
      | nil => simpa using hr
      | cons d rest => exact absurd (by simp [List.cons.inj hr |>.1]) h₂
    · cases between with
      | nil => simpa [eq_comm] using hr
      | cons d rest => exact absurd (by simp [List.cons.inj hr |>.1]) h₁
  · rintro ⟨rfl, rfl⟩
    rfl

/-- There is one way to cut a list at the last place where `c` stands. -/
theorem append_cons_inj_of_notMem_right {α : Type} {c : α} {l₁ l₂ r₁ r₂ : List α} (h₁ : c ∉ r₁)
    (h₂ : c ∉ r₂) : l₁ ++ c :: r₁ = l₂ ++ c :: r₂ ↔ l₁ = l₂ ∧ r₁ = r₂ := by
  have hmirror : r₁.reverse ++ c :: l₁.reverse = r₂.reverse ++ c :: l₂.reverse ↔ _ :=
    append_cons_inj_of_notMem_left (mt List.mem_reverse.1 h₁) (mt List.mem_reverse.1 h₂)
  rw [List.reverse_inj, List.reverse_inj] at hmirror
  rw [← List.reverse_inj, List.reverse_append, List.reverse_append, List.reverse_cons,
    List.reverse_cons, List.append_assoc, List.append_assoc, List.singleton_append,
    List.singleton_append, hmirror, and_comm]

/-! ## Numbers -/

theorem ofDigitChars_padded (width n : Nat) :
    Nat.ofDigitChars 10 (padded width n).toList 0 = n := by
  rw [padded, String.toList_ofList, Nat.ofDigitChars_append, Nat.ofDigitChars_replicate_zero,
    Nat.mul_zero, Nat.ofDigitChars_ten_toDigits]

/-- **A number is known from its digits**, `padded` with however many zeros. -/
theorem padded_inj {width m n : Nat} : padded width m = padded width n ↔ m = n := by
  refine ⟨fun h => ?_, fun h => h ▸ rfl⟩
  rw [← ofDigitChars_padded width m, h, ofDigitChars_padded]

/-- A number that is `padded` ends at whatever is no digit. -/
theorem padded_append_cons_inj {c : Char} (hc : c.isDigit = false) {width m n : Nat}
    {r₁ r₂ : List Char} :
    (padded width m).toList ++ c :: r₁ = (padded width n).toList ++ c :: r₂ ↔ m = n ∧ r₁ = r₂ := by
  rw [append_cons_inj_of_notMem_left (notMem_padded hc _ _) (notMem_padded hc _ _),
    String.toList_inj, padded_inj]

/-! ## Stamps -/

theorem toList_stamp (t : DateTime) :
    (stamp t).toList = (padded 1 t.date.year).toList ++ '-' :: ((padded 2 t.date.month).toList ++
      '-' :: ((padded 2 t.date.day).toList ++ 'T' :: ((padded 2 t.hour).toList ++
      ':' :: ((padded 2 t.minute).toList ++ ':' :: ((padded 2 t.second).toList ++ ['Z']))))) := by
  simp [stamp, DateTime.dateText, DateTime.timeText]

/-- A `stamp` has the date and the time of the day. -/
theorem stamp_eq_iff {s t : DateTime} :
    stamp s = stamp t ↔
      s.date = t.date ∧ s.hour = t.hour ∧ s.minute = t.minute ∧ s.second = t.second := by
  have hdate : s.date = t.date ↔
      s.date.year = t.date.year ∧ s.date.month = t.date.month ∧ s.date.day = t.date.day := by
    rw [Date.mk.injEq]
  rw [← String.toList_inj, toList_stamp, toList_stamp,
    padded_append_cons_inj (by decide), padded_append_cons_inj (by decide),
    padded_append_cons_inj (by decide), padded_append_cons_inj (by decide),
    padded_append_cons_inj (by decide), padded_append_cons_inj (by decide), hdate]
  simp only [and_true, and_assoc]

/-- **A second is known from its `stamp`.** -/
theorem stamp_inj {s t : DateTime} (hs : s.IsDated) (ht : t.IsDated) :
    stamp s.atSecond = stamp t.atSecond ↔ s.utcSecond = t.utcSecond := by
  refine ⟨fun h => ?_, fun h => congrArg stamp (DateTime.atSecond_eq_iff.2 h)⟩
  obtain ⟨hdate, hhour, hminute, hsecond⟩ := stamp_eq_iff.1 h
  have hmicros : s.atSecond.wall % microsPerSecond = t.atSecond.wall % microsPerSecond := by
    rw [DateTime.wall_atSecond_emod, DateTime.wall_atSecond_emod]
  have hwall : s.atSecond.wall = t.atSecond.wall :=
    DateTime.wall_eq_of_fields (DateTime.wall_atSecond_nonneg hs) (DateTime.wall_atSecond_nonneg ht)
      hmicros hdate hhour hminute hsecond
  exact DateTime.atSecond_eq_iff.1 (by rw [DateTime.mk.injEq]; exact ⟨hwall, rfl⟩)

/-! ## Folders -/

/-- A text of `n` slashes. -/
def slashes (n : Nat) : String := String.ofList (List.replicate n '/')

theorem dropEndSlashes_append_slashes (folder : String) (n : Nat) :
    dropEndSlashes (folder ++ slashes n) = dropEndSlashes folder := by
  have hslash : ∀ c ∈ List.replicate n '/', (c == '/') = true := by
    intro c hc
    rw [List.eq_of_mem_replicate hc]
    rfl
  rw [dropEndSlashes, dropEndSlashes, String.toList_append, slashes, String.toList_ofList,
    List.reverse_append, List.reverse_replicate, List.dropWhile_append_of_pos hslash]

/-- **Slashes at the end of `folder` do not count.** -/
theorem inFolder_append_slashes (folder name : String) (n : Nat) :
    inFolder (folder ++ slashes n) name = inFolder folder name := by
  rw [inFolder, inFolder, dropEndSlashes_append_slashes]

/-- Names below one `folder` are told apart. -/
theorem inFolder_inj {folder a b : String} : inFolder folder a = inFolder folder b ↔ a = b := by
  rw [inFolder, inFolder]
  split
  · rfl
  · exact String.append_right_inj _

/-! ## Keys -/

theorem backupKey?_of_isDated (folder node : String) {t : DateTime} (ht : t.IsDated) :
    backupKey? folder node t =
      some (inFolder folder (node ++ "_" ++ stamp t.atSecond ++ ".rdb")) := by
  rw [backupKey?, DateTime.toUtcSeconds?_eq_some_iff.2 ⟨ht, rfl⟩, Option.map_some]

/-- Node and stamp are on both sides of the last underscore. -/
theorem node_stamp_inj {a b : String} {s t : DateTime} :
    a ++ "_" ++ stamp s ++ ".rdb" = b ++ "_" ++ stamp t ++ ".rdb" ↔ a = b ∧ stamp s = stamp t := by
  have hmark : "_".toList = ['_'] := rfl
  have hlist : ∀ (node : String) (u : DateTime), (node ++ "_" ++ stamp u ++ ".rdb").toList =
      node.toList ++ '_' :: (stamp u ++ ".rdb").toList := by
    intro node u
    simp only [String.toList_append, hmark, List.append_assoc, List.cons_append, List.nil_append]
  have hnone : ∀ u : DateTime, '_' ∉ (stamp u ++ ".rdb").toList := by
    intro u
    rw [String.toList_append, List.mem_append, not_or]
    exact ⟨underscore_notMem_stamp u, by decide⟩
  rw [← String.toList_inj, hlist, hlist, append_cons_inj_of_notMem_right (hnone s) (hnone t),
    String.toList_inj, String.toList_inj, String.append_left_inj]

/-- **What a key tells.**  Two dumps, of the nodes `a` and `b` and changed at `s` and `t`, go to
the same key if and only if they are of the same node and were changed in the same second; the
`nodeFolder` of `a` matches the keys of `a`, those of nodes whose names begin with `a` and an
underscore, and no others; and it makes no difference how many slashes are at the end of
`folder`. -/
theorem backupKey?_exact (folder a b : String) {s t : DateTime} (hs : s.IsDated) (ht : t.IsDated) :
    ∃ key other, backupKey? folder a s = some key ∧ backupKey? folder b t = some other ∧
      (key = other ↔ a = b ∧ s.utcSecond = t.utcSecond) ∧
      (beginsWith (nodeFolder folder a) other = true ↔ b = a ∨ beginsWith (a ++ "_") b = true) ∧
      beginsWith (nodeFolder folder a) key = true ∧
      ∀ base m n, folder = base ++ slashes m →
        backupKey? (base ++ slashes n) a s = some key ∧
        nodeFolder (base ++ slashes n) a = nodeFolder folder a := by
  have hkey := backupKey?_of_isDated folder a hs
  have hother := backupKey?_of_isDated folder b ht
  refine ⟨_, _, hkey, hother, ?_, ?_, beginsWith_backupKey? hkey, ?_⟩
  · rw [inFolder_inj, node_stamp_inj, stamp_inj hs ht]
  · rw [beginsWith_nodeFolder_iff hother, eq_comm]
  · rintro base m n rfl
    rw [backupKey?_of_isDated _ _ hs, nodeFolder, nodeFolder]
    simp only [inFolder_append_slashes, and_self]

/-- In the last second of the year 999, told by a clock of unknown offset and by one two hours ahead
of UTC, `cache` has one key whatever slashes are behind the folder; and while its folder matches the
key of `cache_1`, the two nodes do not share a key. -/
theorem backupKey?_exact_cache :
    ∃ key other, backupKey? "vault//" "cache" ⟨31525372799500000, none⟩ = some key ∧
      backupKey? "vault" "cache" ⟨31525379999900000, some 7200000000⟩ = some key ∧
      backupKey? "vault//" "cache_1" ⟨31525379999900000, some 7200000000⟩ = some other ∧
      key ≠ other ∧ beginsWith (nodeFolder "vault//" "cache") other = true := by
  have hs : (⟨31525372799500000, none⟩ : DateTime).IsDated := by decide
  have ht : (⟨31525379999900000, some 7200000000⟩ : DateTime).IsDated := by decide
  obtain ⟨key, other, hkey, hother, hsame, hfolder, -, -⟩ :=
    backupKey?_exact "vault//" "cache" "cache_1" hs ht
  obtain ⟨_, again, hkey', hagain, hsecond, -, -, -⟩ :=
    backupKey?_exact "vault//" "cache" "cache" hs ht
  obtain ⟨_, _, hagain', -, -, -, -, hslashes⟩ :=
    backupKey?_exact "vault//" "cache" "cache" ht ht
  obtain rfl : key = again := by
    rw [hkey] at hkey'
    exact Option.some.inj hkey' ▸ hsecond.2 ⟨rfl, by decide⟩
  refine ⟨key, other, hkey, ?_, hother, fun h => absurd (hsame.1 h).1 (by decide),
    hfolder.2 (.inr (by decide))⟩
  rw [hagain] at hagain'
  exact Option.some.inj hagain' ▸ (hslashes "vault" 2 0 rfl).1

end DumpKeeper
