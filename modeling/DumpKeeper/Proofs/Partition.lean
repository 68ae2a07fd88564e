import DumpKeeper.Proofs.Stumbling

/-!
# What is kept of a listing

A partition answers which of the listed records are kept.  It is told here in full, by the listing,
the policy and the time alone, and from that follow the ways in which it does not depend on the
listing: neither the order of the listing nor records that are missing because they were to be
deleted anyway make a difference to what is kept.

* `comparedTimes` — a partition looks at these times, and there is none if some of them are UTC
  times and others are not.
* `RetentionSettings.Covers` — a record is newer than the period of a policy reaches back.
* `Partition.Divides`, `partition_divides` — everything that is true of a partition, and that it is.
* `partition_perm` — listings that differ in their order.
* `ranked`, `withoutPlaces` — a listing without the records at some places of the order, and
  `partition_withoutPlaces` about what is then kept.
-/

set_option autoImplicit false

namespace DumpKeeper

variable {records records' : List Record} {policy : RetentionSettings} {now : DateTime}
  {cutoff : Option DateTime} {keepLast : Int} {keepDuration : Option Duration}

/-! ## When there is a partition -/

/-- Whether the `policy` has a period; one of no length is none. -/
def RetentionSettings.hasPeriod (policy : RetentionSettings) : Bool :=
  policy.keepDuration.any fun d => !d.isZero

/-- A record is newer than the period of a policy reaches back from `now`. -/
def RetentionSettings.Covers (policy : RetentionSettings) (now : DateTime) (a : Record) : Prop :=
  ∃ d, policy.keepDuration = some d ∧ d.isZero = false ∧ now.utcWall - d.micros < a.time.utcWall

/-- The times that `partition` compares with one another: those of the `records`, and that of the
clock if there is a period and a record that may be newer. -/
def comparedTimes (records : List Record) (policy : RetentionSettings) (now : DateTime) :
    List DateTime :=
  if policy.hasPeriod && !records.isEmpty then now :: records.map (·.time)
  else records.map (·.time)

/-- There is a cutoff unless the policy `ReachesTooFar` back. -/
theorem exists_cutoffOf (h : ¬policy.ReachesTooFar now) :
    ∃ cutoff, cutoffOf policy.keepDuration now = .ok cutoff := by
  rw [← cutoffOf_eq_error_iff] at h
  rcases hc : cutoffOf policy.keepDuration now with f | cutoff
  · exact absurd ⟨f, hc⟩ h
  · exact ⟨cutoff, rfl⟩

/-- The `cutoff` lies as far back as the period is long. -/
theorem cutoffOf_eq_ok (h : cutoffOf policy.keepDuration now = .ok cutoff) :
    (policy.hasPeriod = false ∧ cutoff = none) ∨
      ∃ d, policy.keepDuration = some d ∧ d.isZero = false ∧
        cutoff = some ⟨now.wall - d.micros, now.offset⟩ := by
  rw [RetentionSettings.hasPeriod]
  rcases hd : policy.keepDuration with _ | d
  · rw [hd] at h
    exact .inl ⟨rfl, (Except.ok.inj h).symm⟩
  rw [hd, cutoffOf, Option.filter_some] at h
  rcases hz : d.isZero with _ | _
  · simp only [hz, Bool.not_false, if_true] at h
    rw [DateTime.before, DateTime.ofWall?] at h
    split at h
    · rename_i hw
      split at hw
      · cases hw
        exact .inr ⟨d, rfl, hz, (Except.ok.inj h).symm⟩
      · cases hw
    · cases h
  · simp only [hz, Bool.not_true, Bool.false_eq_true, if_false] at h
    exact .inl ⟨by simp [hz], (Except.ok.inj h).symm⟩

theorem isSome_of_cutoffOf (h : cutoffOf policy.keepDuration now = .ok cutoff) :
    cutoff.isSome = policy.hasPeriod := by
  obtain ⟨hp, rfl⟩ | ⟨d, hd, hz, rfl⟩ := cutoffOf_eq_ok h
  · exact hp.symm
  · simp [RetentionSettings.hasPeriod, hd, hz]

/-- Newer than the `cutoff` is newer than the period reaches back. -/
theorem isNewer_iff_covers (h : cutoffOf policy.keepDuration now = .ok cutoff) (a : Record) :
    isNewer cutoff a = true ↔ policy.Covers now a := by
  rw [RetentionSettings.Covers]
  obtain ⟨hp, rfl⟩ | ⟨d, hd, hz, rfl⟩ := cutoffOf_eq_ok h
  · refine iff_of_false (by simp [isNewer]) ?_
    rintro ⟨d, hd, hz, -⟩
    simp [RetentionSettings.hasPeriod, hd, hz] at hp
  · have hwall : (⟨now.wall - d.micros, now.offset⟩ : DateTime).utcWall =
        now.utcWall - d.micros := by
      simp only [DateTime.utcWall]
      omega
    simp [isNewer, hd, hz, hwall]

theorem comparable_of_subset {ts us : List DateTime} (h : us ⊆ ts) (hc : comparable ts = true) :
    comparable us = true := by
  rw [comparable, Bool.or_eq_true, List.all_eq_true, List.all_eq_true] at hc ⊢
  exact hc.imp (fun hall t ht => hall t (h ht)) fun hall t ht => hall t (h ht)

theorem comparable_congr {ts us : List DateTime} (h : ts ⊆ us) (h' : us ⊆ ts) :
    comparable ts = comparable us :=
  Bool.eq_iff_iff.2 ⟨comparable_of_subset h', comparable_of_subset h⟩

theorem partition_of_not_comparable (h : comparable (records.map (·.time)) = false) :
    partition records keepLast keepDuration now = .error .mixedClocks := by
  rw [partition]
  dsimp only
  rw [h]
  rfl

/-- **There is a partition just when the times can be compared**, if `cutoffOf` gives a cutoff or
none is needed. -/
theorem partition_of_cutoffOf (hc : cutoffOf policy.keepDuration now = .ok cutoff) :
    partition records policy.keepLast policy.keepDuration now =
      if comparable (comparedTimes records policy now) then
        .ok (partitionAt records policy.keepLast cutoff)
      else .error .mixedClocks := by
  rw [partition, hc, comparedTimes, ← isSome_of_cutoffOf hc]
  dsimp only [Except.mapError, bind, Except.bind, pure, Except.pure, throw, throwThe,
    MonadExceptOf.throw]
  rcases ht : comparable (records.map (·.time)) with _ | _
  · rcases hn : cutoff.isSome && !records.isEmpty with _ | _
    · simp [ht]
    · have : comparable (now :: records.map (·.time)) = false := by
        rw [← Bool.not_eq_true]
        exact fun h => by simp [comparable_of_subset (List.subset_cons_self _ _) h] at ht
      simp [this]
  · rcases hn : cutoff.isSome && !records.isEmpty with _ | _
    · simp [ht]
    · rcases hx : comparable (now :: records.map (·.time)) with _ | _ <;> simp [ht, hx]

/-- Times whose offsets are known are always `comparable`. -/
theorem comparable_comparedTimes (h : ∀ a ∈ records, a.time.offset.isSome)
    (hn : now.offset.isSome) : comparable (comparedTimes records policy now) = true := by
  have htimes : ∀ t ∈ records.map (·.time), t.offset.isSome := List.forall_mem_map.2 h
  rw [comparedTimes]
  split
  · exact comparable_of_isSome (List.forall_mem_cons.2 ⟨hn, htimes⟩)
  · exact comparable_of_isSome htimes

/-! ## What a partition is -/

theorem Partition.mem_delete {p : Partition} {i : Nat} :
    i ∈ p.delete ↔ i < p.records.length ∧ i ∉ p.keep := by
  rw [Partition.delete, List.mem_filter, List.mem_range, Bool.not_eq_true', ← Bool.not_eq_true,
    List.contains_iff_mem]

/-- **What a partition `p` of the listed `records` is**, under the `policy` and at the time
`now`. -/
structure Partition.Divides (p : Partition) (records : List Record) (policy : RetentionSettings)
    (now : DateTime) : Prop where
  /-- Its records are those that were listed. -/
  perm : p.records.Perm records
  /-- They stand from the newest to the oldest. -/
  sorted : p.records.Pairwise fun a b => b.time.utcWall ≤ a.time.utcWall
  /-- Those of one instant stand as they were listed. -/
  stable : ∀ instant : Int, (p.records.filter fun a => a.time.utcWall == instant) =
    records.filter fun a => a.time.utcWall == instant
  /-- No place is both kept and deleted. -/
  disjoint : ∀ i ∈ p.keep, i ∉ p.delete
  /-- The places of the records are kept or deleted, and no others are. -/
  places : ∀ i, i ∈ p.keep ∨ i ∈ p.delete ↔ i < p.records.length
  /-- The rule: a place is kept for its number or for the time of its record. -/
  mem_keep : ∀ i a, p.records[i]? = some a →
    (i ∈ p.keep ↔ (i : Int) < policy.keepLast ∨ policy.Covers now a)
  /-- What is kept stands in front. -/
  initial : ∀ i ∈ p.keep, ∀ j < i, j ∈ p.keep
  /-- Nothing that is deleted is newer than anything that is kept. -/
  noNewer : ∀ a ∈ p.kept, ∀ b ∈ p.toDelete, b.time.utcWall ≤ a.time.utcWall
  /-- What is kept and then what is deleted are all records in their order. -/
  append : p.kept ++ p.toDelete = p.records
  /-- As many are kept as the count asks for, if there are so many. -/
  least : min (max policy.keepLast 0) p.records.length ≤ p.kept.length

/-- The partition by the rule, `partitionAt`, is one: it `Divides` the records. -/
theorem partitionAt_divides (hc : cutoffOf policy.keepDuration now = .ok cutoff) :
    (partitionAt records policy.keepLast cutoff).Divides records policy now where
  perm := newestFirst_perm records
  sorted := pairwise_utcWall_newestFirst records
  stable instant := by
    refine filter_newestFirst_of_same records fun a b ha hb => ?_
    rw [beq_iff_eq] at ha hb
    exact ha.trans hb.symm
  disjoint i hi hd := (Partition.mem_delete.1 hd).2 hi
  places i := by
    have hlow : i ∈ (partitionAt records policy.keepLast cutoff).keep →
        i < (partitionAt records policy.keepLast cutoff).records.length := by
      intro hi
      exact Nat.lt_of_lt_of_le (mem_keep_partitionAt.1 hi) keptCount_le_length_newestFirst
    rw [Partition.mem_delete]
    tauto
  mem_keep i a h := by
    have hrule : i ∈ (partitionAt records policy.keepLast cutoff).keep ↔
        isKept policy.keepLast cutoff i a = true := by
      rw [mem_keep_partitionAt, isKept_eq_decide_lt h, decide_eq_true_eq]
    rw [hrule, isKept_eq, Bool.or_eq_true, decide_eq_true_eq, isNewer_iff_covers hc]
  initial i hi j hj := mem_keep_partitionAt.2 (Nat.lt_trans hj (mem_keep_partitionAt.1 hi))
  noNewer a ha b hb := by
    have hsorted := pairwise_utcWall_newestFirst records
    rw [← kept_append_toDelete records policy.keepLast cutoff] at hsorted
    exact (List.pairwise_append.1 hsorted).2.2 a ha b hb
  append := kept_append_toDelete records policy.keepLast cutoff
  least := by
    have hlength : (partitionAt records policy.keepLast cutoff).records.length = records.length :=
      length_newestFirst records
    rw [length_kept, hlength, keptCount]
    omega

/-- Where the times can be compared there is a partition that `Divides` the records, unless the
period of the `policy` reaches too far. -/
theorem exists_divides (h : ¬policy.ReachesTooFar now)
    (hcomp : comparable (comparedTimes records policy now) = true) :
    ∃ plan, partition records policy.keepLast policy.keepDuration now = .ok plan ∧
      plan.Divides records policy now := by
  obtain ⟨cutoff, hc⟩ := exists_cutoffOf h
  rw [partition_of_cutoffOf hc]
  exact ⟨_, if_pos hcomp, partitionAt_divides hc⟩

/-- **What a partition is, in full**: one that `Divides` the records.  Unless the period of the
`policy` reaches too far there is one, provided that the times can be compared. -/
theorem partition_divides (h : ¬policy.ReachesTooFar now) :
    (comparable (comparedTimes records policy now) = false →
        partition records policy.keepLast policy.keepDuration now = .error .mixedClocks) ∧
      (comparable (comparedTimes records policy now) = true →
        ∃ plan, partition records policy.keepLast policy.keepDuration now = .ok plan ∧
          plan.Divides records policy now) := by
  refine ⟨fun hno => ?_, exists_divides h⟩
  obtain ⟨cutoff, hc⟩ := exists_cutoffOf h
  rw [partition_of_cutoffOf hc]
  exact if_neg (by simp [hno])

/-- Noon on a day in January 2024. -/
def noon : DateTime := ⟨63840916800000000, some 0⟩

/-- Four records: two of an hour before `noon`, one of `noon`, and one that is older. -/
def fourRecords : List Record :=
  [⟨"a", ⟨63840913200000000, some 0⟩, 0⟩, ⟨"b", noon, 0⟩, ⟨"c", ⟨63840906000000000, some 0⟩, 0⟩,
    ⟨"d", ⟨63840913200000000, some 0⟩, 0⟩]

theorem newestFirst_fourRecords :
    (newestFirst fourRecords).map (·.key) = ["b", "a", "d", "c"] := by
  simp [newestFirst, fourRecords, noon, List.mergeSort, noOlder, DateTime.utcWall]

/-- A policy that keeps the backups of an hour, and none for their number. -/
def hourPolicy : RetentionSettings := ⟨-1, some ⟨3600000000⟩⟩

/-- What is just as old as the period is long is not kept. -/
theorem divides_fourRecords :
    ¬hourPolicy.ReachesTooFar noon ∧
      ∃ plan, partition fourRecords hourPolicy.keepLast hourPolicy.keepDuration noon = .ok plan ∧
        plan.Divides fourRecords hourPolicy noon ∧ plan.kept.map (·.key) = ["b"] := by
  have hnear : ¬hourPolicy.ReachesTooFar noon := by
    rintro ⟨d, hd, -, hfar⟩
    cases hd
    exact hfar (by decide)
  have hcomparable : comparable (comparedTimes fourRecords hourPolicy noon) = true :=
    comparable_comparedTimes (by decide) rfl
  obtain ⟨plan, hplan, hdivides⟩ := (partition_divides hnear).2 hcomparable
  refine ⟨hnear, plan, hplan, hdivides, ?_⟩
  obtain rfl : partitionAt fourRecords (-1) (some ⟨63840913200000000, some 0⟩) = plan :=
    Except.ok.inj hplan
  rw [kept_eq_take, List.map_take, newestFirst_fourRecords]
  rfl

/-! ## Listings in another order -/

theorem comparedTimes_subset (h : records' ⊆ records) :
    comparedTimes records' policy now ⊆ comparedTimes records policy now := by
  have hmap : records'.map (·.time) ⊆ records.map (·.time) := List.map_subset _ h
  rw [comparedTimes, comparedTimes]
  split
  · rename_i hp
    have hne : records.isEmpty = false := by
      rw [Bool.and_eq_true, Bool.not_eq_true', List.isEmpty_eq_false_iff] at hp
      obtain ⟨a, ha⟩ := List.exists_mem_of_ne_nil _ hp.2
      exact List.isEmpty_eq_false_iff.2 (List.ne_nil_of_mem (h ha))
    rw [if_pos (by rw [Bool.and_eq_true] at hp ⊢; exact ⟨hp.1, by rw [hne]; rfl⟩)]
    exact List.cons_subset_cons _ hmap
  · split
    · exact List.Subset.trans hmap (List.subset_cons_self _ _)
    · exact hmap

/-- Listings that differ in their order, `records` and `records'`, are parted alike, or fail
alike. -/
theorem partition_cases_of_perm (h : records.Perm records') (policy : RetentionSettings)
    (now : DateTime) :
    (∃ f, partition records policy.keepLast policy.keepDuration now = .error f ∧
        partition records' policy.keepLast policy.keepDuration now = .error f) ∨
      ∃ cutoff,
        partition records policy.keepLast policy.keepDuration now =
          .ok (partitionAt records policy.keepLast cutoff) ∧
        partition records' policy.keepLast policy.keepDuration now =
          .ok (partitionAt records' policy.keepLast cutoff) := by
  rcases ht : comparable (records.map (·.time)) with _ | _
  · have ht' := comparable_congr (h.map (·.time)).subset (h.map (·.time)).symm.subset
    exact .inl ⟨_, partition_of_not_comparable ht, partition_of_not_comparable (ht'.symm.trans ht)⟩
  have ht' : comparable (records'.map (·.time)) = true :=
    comparable_of_subset (h.map (·.time)).symm.subset ht
  rcases hc : cutoffOf policy.keepDuration now with f | cutoff
  · exact .inl ⟨_, partition_of_cutoffOf_error _ ht hc, partition_of_cutoffOf_error _ ht' hc⟩
  have hcomp : comparable (comparedTimes records policy now) =
      comparable (comparedTimes records' policy now) :=
    comparable_congr (comparedTimes_subset h.subset) (comparedTimes_subset h.symm.subset)
  rw [partition_of_cutoffOf hc, partition_of_cutoffOf hc, hcomp]
  split
  · exact .inr ⟨cutoff, rfl, rfl⟩
  · exact .inl ⟨_, rfl, rfl⟩

/-- **The order of a listing does not count.**  Of `records` and `records'` that differ in their
order the same places and times are kept, and the same records if no two have the same time. -/
theorem partition_perm (h : records.Perm records') (policy : RetentionSettings) (now : DateTime) :
    (∀ f, partition records policy.keepLast policy.keepDuration now = .error f →
        partition records' policy.keepLast policy.keepDuration now = .error f) ∧
      ∀ plan, partition records policy.keepLast policy.keepDuration now = .ok plan →
        ∃ plan', partition records' policy.keepLast policy.keepDuration now = .ok plan' ∧
          plan'.keep = plan.keep ∧ plan'.kept.length = plan.kept.length ∧
          plan'.kept.map (·.time.utcWall) = plan.kept.map (·.time.utcWall) ∧
          ((records.map (·.time.utcWall)).Nodup →
            plan'.kept = plan.kept ∧ plan'.toDelete = plan.toDelete) := by
  obtain ⟨f, hf, hf'⟩ | ⟨cutoff, hp, hp'⟩ := partition_cases_of_perm h policy now
  · rw [hf, hf']
    exact ⟨fun _ hg => hg, fun plan hplan => nomatch hplan⟩
  rw [hp, hp']
  refine ⟨fun _ hg => (nomatch hg), ?_⟩
  rintro _ ⟨⟩
  have hcount : keptCount policy.keepLast cutoff records =
      keptCount policy.keepLast cutoff records' := keptCount_eq_of_perm h
  have htimes : (partitionAt records' policy.keepLast cutoff).kept.map (·.time.utcWall) =
      (partitionAt records policy.keepLast cutoff).kept.map (·.time.utcWall) := by
    rw [kept_eq_take, kept_eq_take, List.map_take, List.map_take, map_utcWall_newestFirst h, hcount]
  refine ⟨_, rfl, ?_, ?_, htimes, fun hd => ?_⟩
  · rw [keep_partitionAt, keep_partitionAt, hcount]
  · simpa using congrArg List.length htimes
  · rw [kept_eq_take, kept_eq_take, toDelete_eq_drop, toDelete_eq_drop, newestFirst_congr h hd,
      hcount]
    exact ⟨rfl, rfl⟩

theorem newestFirst_reverse_fourRecords :
    (newestFirst fourRecords.reverse).map (·.key) = ["b", "d", "a", "c"] := by
  simp [newestFirst, fourRecords, noon, List.mergeSort, noOlder, DateTime.utcWall]

/-- Of the records of one time another one may be kept, as one of the four shows; the first three
have different times. -/
theorem perm_fourRecords :
    (∃ plan plan', partition fourRecords 2 none ⟨0, some 0⟩ = .ok plan ∧
        partition fourRecords.reverse 2 none ⟨0, some 0⟩ = .ok plan' ∧
        plan'.kept.map (·.time.utcWall) = plan.kept.map (·.time.utcWall) ∧
        plan'.kept ≠ plan.kept) ∧
      ∃ plan plan', partition (fourRecords.take 3) 2 none ⟨0, some 0⟩ = .ok plan ∧
        partition (fourRecords.take 3).reverse 2 none ⟨0, some 0⟩ = .ok plan' ∧
        plan'.kept = plan.kept ∧ plan'.toDelete = plan.toDelete := by
  constructor
  · obtain ⟨plan', hp', -, -, htimes, -⟩ :=
      (partition_perm (List.reverse_perm fourRecords).symm ⟨2, none⟩ ⟨0, some 0⟩).2 _ rfl
    refine ⟨_, plan', rfl, hp', htimes, fun hsame => ?_⟩
    obtain rfl : partitionAt fourRecords.reverse 2 none = plan' := Except.ok.inj hp'
    have hkeys : (partitionAt fourRecords 2 none).kept.map (·.key) = ["b", "a"] := by
      rw [kept_eq_take, List.map_take, newestFirst_fourRecords]
      rfl
    have hkeys' : (partitionAt fourRecords.reverse 2 none).kept.map (·.key) = ["b", "d"] := by
      rw [kept_eq_take, List.map_take, newestFirst_reverse_fourRecords]
      rfl
    exact absurd (hkeys'.symm.trans ((congrArg _ hsame).trans hkeys)) (by decide)
  · obtain ⟨plan', hp', -, -, -, hsame⟩ :=
      (partition_perm (List.reverse_perm (fourRecords.take 3)).symm ⟨2, none⟩ ⟨0, some 0⟩).2 _ rfl
    exact ⟨_, plan', rfl, hp', hsame (by decide)⟩

/-! ## Listings in which deleted records are missing -/

/-- Records of which some that were to be deleted are missing, so that a `tail` is left of them, are
parted as before. -/
theorem partitionAt_of_newestFirst {rest tail : List Record}
    (hrest : newestFirst rest = (partitionAt records keepLast cutoff).kept ++ tail)
    (htail : tail.Sublist (partitionAt records keepLast cutoff).toDelete) :
    (partitionAt rest keepLast cutoff).kept = (partitionAt records keepLast cutoff).kept ∧
      (partitionAt rest keepLast cutoff).toDelete = tail := by
  have hfront := length_kept records keepLast cutoff
  have hnewer : rest.countP (isNewer cutoff) = records.countP (isNewer cutoff) := by
    have hnone := countP_isNewer_toDelete records keepLast cutoff
    have htailNone : tail.countP (isNewer cutoff) = 0 :=
      Nat.le_zero.1 (Nat.le_trans htail.countP_le (Nat.le_of_eq hnone))
    rw [← (newestFirst_perm rest).countP_eq, hrest, List.countP_append, htailNone,
      ← (newestFirst_perm records).countP_eq, ← kept_append_toDelete records keepLast cutoff,
      List.countP_append, hnone]
  have hlength : rest.length = keptCount keepLast cutoff records + tail.length := by
    rw [← length_newestFirst, hrest, List.length_append, hfront]
  -- all records that the count asks for are kept, or there are fewer and none is deleted
  have hcount : keptCount keepLast cutoff rest = keptCount keepLast cutoff records := by
    have hle := htail.length_le
    rw [toDelete_eq_drop, List.length_drop, length_newestFirst] at hle
    rw [keptCount] at hlength hle ⊢
    rw [hnewer, hlength, keptCount]
    omega
  rw [kept_eq_take rest, toDelete_eq_drop rest, hcount, hrest]
  exact ⟨List.take_left' hfront, List.drop_left' hfront⟩

/-- Leaving out records that are not kept, by `p`. -/
theorem partitionAt_filter {p : Record → Bool}
    (h : ∀ a ∈ (partitionAt records keepLast cutoff).kept, p a = true) :
    (partitionAt (records.filter p) keepLast cutoff).kept =
        (partitionAt records keepLast cutoff).kept ∧
      (partitionAt (records.filter p) keepLast cutoff).toDelete =
        (partitionAt records keepLast cutoff).toDelete.filter p := by
  refine partitionAt_of_newestFirst ?_ List.filter_sublist
  rw [newestFirst, mergeSort_filter noOlder_trans noOlder_total, ← newestFirst,
    ← kept_append_toDelete records keepLast cutoff, List.filter_append, List.filter_eq_self.2 h]

/-- If there is a `plan` for `records`, there is one for a part of them, `rest`, with the same
cutoff. -/
theorem partition_of_subset {rest : List Record} {plan : Partition}
    (h : partition records policy.keepLast policy.keepDuration now = .ok plan)
    (hsub : rest ⊆ records) :
    ∃ cutoff, plan = partitionAt records policy.keepLast cutoff ∧
      partition rest policy.keepLast policy.keepDuration now =
        .ok (partitionAt rest policy.keepLast cutoff) := by
  obtain ⟨cutoff, hc, hplan⟩ := partition_eq_ok h
  rw [partition_of_cutoffOf hc] at h
  split at h
  · rename_i hcomp
    refine ⟨cutoff, hplan, ?_⟩
    rw [partition_of_cutoffOf hc]
    exact if_pos (comparable_of_subset (comparedTimes_subset hsub) hcomp)
  · cases h

/-! ### By their places -/

/-- The `records` with their places in the listing, in the order in which they are counted. -/
def ranked (records : List Record) : List (Record × Nat) :=
  records.zipIdx.mergeSort fun e f => noOlder e.1 f.1

/-- The listing `records` without those that stand at the places `gone` of the order.  The others
stay as they were listed. -/
def withoutPlaces (records : List Record) (gone : List Nat) : List Record :=
  (records.zipIdx.filter fun e => !gone.any fun i => (ranked records)[i]? == some e).map (·.1)

theorem withoutPlaces_sublist (records : List Record) (gone : List Nat) :
    (withoutPlaces records gone).Sublist records := by
  have hsub : (withoutPlaces records gone).Sublist (records.zipIdx.map (·.1)) :=
    List.filter_sublist.map _
  rwa [List.zipIdx_map_fst] at hsub

theorem map_mergeSort_noOlder (l : List (Record × Nat)) :
    (l.mergeSort fun e f => noOlder e.1 f.1).map (·.1) = newestFirst (l.map (·.1)) := by
  refine List.map_mergeSort ?_
  exact fun _ _ _ _ => rfl

/-- The order of `ranked` is that of the records. -/
theorem map_ranked (records : List Record) :
    (ranked records).map (·.1) = newestFirst records := by
  rw [ranked, map_mergeSort_noOlder, List.zipIdx_map_fst]

theorem nodup_ranked (records : List Record) : (ranked records).Nodup := by
  rw [ranked, (List.mergeSort_perm _ _).nodup_iff]
  refine List.Nodup.of_map (·.2) ?_
  rw [List.zipIdx_map_snd]
  exact List.nodup_range'

/-- In a list `l` without repetitions, what stands at the places `gone` can be left out by value. -/
theorem filter_notAt {α : Type} [BEq α] [LawfulBEq α] {l : List α} (h : l.Nodup)
    (gone : List Nat) :
    (l.filter fun a => !gone.any fun i => l[i]? == some a) =
      (l.zipIdx.filter fun e => !gone.contains e.2).map (·.1) := by
  have hplaced : (l.filter fun a => !gone.any fun i => l[i]? == some a) =
      (l.zipIdx.filter fun e => !gone.any fun i => l[i]? == some e.1).map (·.1) := by
    conv_lhs => arg 2; rw [← List.zipIdx_map_fst 0 l]
    rw [List.filter_map]
    rfl
  rw [hplaced]
  refine congrArg _ (List.filter_congr fun e he => congrArg (!·) ?_)
  have hat : l[e.2]? = some e.1 := List.mem_zipIdx_iff_getElem?.1 he
  rw [Bool.eq_iff_iff, List.any_eq_true, List.contains_iff_mem]
  constructor
  · rintro ⟨i, hi, hie⟩
    rw [beq_iff_eq] at hie
    rwa [(List.getElem?_inj (List.getElem?_eq_some_iff.1 hat).1 h).1 (hat.trans hie.symm)]
  · exact fun hi => ⟨e.2, hi, by rw [hat, beq_self_eq_true]⟩

/-- What is left, by `withoutPlaces`, stands in the order as before. -/
theorem newestFirst_withoutPlaces (records : List Record) (gone : List Nat) :
    newestFirst (withoutPlaces records gone) =
      ((newestFirst records).zipIdx.filter fun e => !gone.contains e.2).map (·.1) := by
  have hfilter := mergeSort_filter (fun e f g : Record × Nat => noOlder_trans e.1 f.1 g.1)
    (fun e f => noOlder_total e.1 f.1)
    (fun e => !gone.any fun i => (ranked records)[i]? == some e) records.zipIdx
  rw [withoutPlaces, ← map_mergeSort_noOlder, hfilter, ← ranked,
    filter_notAt (nodup_ranked records), ← map_ranked, List.zipIdx_map, List.filter_map,
    List.map_map, List.map_map]
  rfl

/-- **Deleted records that are missing make no difference.**  If some of the records that `plan` has
marked for deletion are gone from the listing, the same records are kept, and the rest of those that
were marked are marked. -/
theorem partition_withoutPlaces {plan : Partition} {gone : List Nat}
    (h : partition records policy.keepLast policy.keepDuration now = .ok plan)
    (hgone : ∀ i ∈ gone, i ∈ plan.delete) :
    ∃ left, partition (withoutPlaces records gone) policy.keepLast policy.keepDuration now =
        .ok left ∧
      left.kept = plan.kept ∧
      left.toDelete = plan.select (plan.delete.filter fun i => !gone.contains i) := by
  obtain ⟨cutoff, rfl, hleft⟩ := partition_of_subset h (withoutPlaces_sublist records gone).subset
  let entries := (newestFirst records).zipIdx
  have hfront : ∀ e ∈ entries.filter (fun e => isKept policy.keepLast cutoff e.2 e.1),
      (!gone.contains e.2) = true := by
    intro e he
    have hkeep : e.2 ∈ (partitionAt records policy.keepLast cutoff).keep := List.mem_map_of_mem he
    rw [Bool.not_eq_true', ← Bool.not_eq_true, List.contains_iff_mem]
    exact fun hi => (Partition.mem_delete.1 (hgone e.2 hi)).2 hkeep
  have htail : (partitionAt records policy.keepLast cutoff).select
        ((partitionAt records policy.keepLast cutoff).delete.filter fun i => !gone.contains i) =
      ((entries.filter fun e => !isKept policy.keepLast cutoff e.2 e.1).filter fun e =>
        !gone.contains e.2).map (·.1) := by
    rw [delete_partitionAt, List.filter_map, Partition.select, List.filter_filter,
      List.filter_filter]
    exact filterMap_getElem?_zipIdx _ _
  refine ⟨_, hleft, partitionAt_of_newestFirst ?_ ?_⟩
  · rw [newestFirst_withoutPlaces, zipIdx_newestFirst records policy.keepLast cutoff,
      List.filter_append, List.filter_eq_self.2 hfront, List.map_append, kept_partitionAt, htail]
  · rw [htail, toDelete_partitionAt]
    exact List.filter_sublist.map _

end DumpKeeper
