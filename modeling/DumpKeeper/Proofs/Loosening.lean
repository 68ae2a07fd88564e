import DumpKeeper.Proofs.Partition

/-!
# Looser policies

A policy is loosened by a greater count or by a longer period, and it is the same whether the period
grows or the clock is put back.  A partition under a looser policy keeps what the stricter one
keeps, in the same order, and more behind it.

* `RetentionSettings.reach` — the period of a policy, which is of no length where there is none.
* `Loosens` — a policy and a time are looser than others.
* `Loosens.covers` — what a period covers, a looser one covers.
* `keptCount_le_of_loosens` — the border between kept and deleted moves back only.
* `partition_of_loosens` — what that means for partitions.
-/

set_option autoImplicit false

namespace DumpKeeper

/-- How far the period of the `policy` reaches back, in microseconds.  No period reaches back not at
all, like one of no length. -/
def RetentionSettings.reach (policy : RetentionSettings) : Int :=
  (policy.keepDuration.map (·.micros)).getD 0

/-- The policy `policy'` at the time `now'` is at least as loose as `policy` at `now`. -/
structure Loosens (policy policy' : RetentionSettings) (now now' : DateTime) : Prop where
  /-- As many backups are kept for their number. -/
  count : policy.keepLast ≤ policy'.keepLast
  /-- No period is negative. -/
  nonneg : 0 ≤ policy.reach
  /-- The period is as long. -/
  reach : policy.reach ≤ policy'.reach
  /-- The clock shows no later time. -/
  clock : now'.utcWall ≤ now.utcWall

variable {records : List Record} {policy policy' : RetentionSettings} {now now' : DateTime}
  {cutoff cutoff' : Option DateTime}

/-- A period that `Covers` anything has a length. -/
theorem RetentionSettings.covers_iff {a : Record} (h : 0 ≤ policy.reach) :
    policy.Covers now a ↔ 0 < policy.reach ∧ now.utcWall - policy.reach < a.time.utcWall := by
  rw [Covers]
  rcases hd : policy.keepDuration with _ | d
  · simp [reach, hd]
  have hreach : policy.reach = d.micros := by rw [reach, hd, Option.map_some, Option.getD_some]
  rw [hreach] at h ⊢
  simp only [Option.some.injEq, exists_eq_left', Duration.isZero, beq_eq_false_iff_ne]
  omega

/-- **What the period of `policy` covers, the looser one of `policy'` covers.**  A period of no
length is switched off and covers nothing, so there is nothing to show for it. -/
theorem Loosens.covers (h : Loosens policy policy' now now') {a : Record}
    (ha : policy.Covers now a) : policy'.Covers now' a := by
  obtain ⟨hpos, hlt⟩ := (RetentionSettings.covers_iff h.nonneg).1 ha
  have hreach := h.reach
  have hclock := h.clock
  exact (RetentionSettings.covers_iff (by omega)).2 ⟨by omega, by omega⟩

/-- If `policy'` at `now'` loosens `policy` at `now`, the border between what is kept and what is
deleted moves back only. -/
theorem keptCount_le_of_loosens (h : Loosens policy policy' now now')
    (hc : cutoffOf policy.keepDuration now = .ok cutoff)
    (hc' : cutoffOf policy'.keepDuration now' = .ok cutoff') (records : List Record) :
    keptCount policy.keepLast cutoff records ≤ keptCount policy'.keepLast cutoff' records := by
  have hnewer : records.countP (isNewer cutoff) ≤ records.countP (isNewer cutoff') := by
    refine List.countP_mono_left fun a _ ha => ?_
    exact (isNewer_iff_covers hc' a).2 (h.covers ((isNewer_iff_covers hc a).1 ha))
  have hcount := h.count
  rw [keptCount, keptCount]
  omega

/-- **A looser policy never deletes more.**  Of the same listing, what a partition keeps under
`policy` is where the partition under the looser `policy'` begins, and what that one deletes is
where the first one ends. -/
theorem partition_of_loosens (h : Loosens policy policy' now now')
    (hnear : ¬policy.ReachesTooFar now) (hnear' : ¬policy'.ReachesTooFar now')
    (hcomp : comparable (comparedTimes records policy now) = true)
    (hcomp' : comparable (comparedTimes records policy' now') = true) :
    ∃ plan plan', partition records policy.keepLast policy.keepDuration now = .ok plan ∧
      partition records policy'.keepLast policy'.keepDuration now' = .ok plan' ∧
      plan'.records = plan.records ∧ plan.keep ⊆ plan'.keep ∧ plan.kept <+: plan'.kept ∧
      plan'.toDelete <:+ plan.toDelete := by
  obtain ⟨cutoff, hc⟩ := exists_cutoffOf hnear
  obtain ⟨cutoff', hc'⟩ := exists_cutoffOf hnear'
  have hborder := keptCount_le_of_loosens h hc hc' records
  refine ⟨partitionAt records policy.keepLast cutoff, partitionAt records policy'.keepLast cutoff',
    ?_, ?_, rfl, ?_, ?_, ?_⟩
  · rw [partition_of_cutoffOf hc, if_pos hcomp]
  · rw [partition_of_cutoffOf hc', if_pos hcomp']
  · intro i hi
    exact mem_keep_partitionAt.2 (Nat.lt_of_lt_of_le (mem_keep_partitionAt.1 hi) hborder)
  · rw [kept_eq_take, kept_eq_take]
    exact List.take_prefix_take_left hborder
  · rw [toDelete_eq_drop, toDelete_eq_drop]
    exact List.drop_suffix_drop_left _ hborder

/-- Half an hour before noon, with a period of an hour that there was not at noon, two more of the
four records are kept. -/
theorem loosened_fourRecords :
    Loosens ⟨1, none⟩ ⟨1, hourPolicy.keepDuration⟩ noon ⟨63840915000000000, some 0⟩ ∧
      ∃ plan plan', partition fourRecords 1 none noon = .ok plan ∧
        partition fourRecords 1 hourPolicy.keepDuration ⟨63840915000000000, some 0⟩ = .ok plan' ∧
        plan.kept <+: plan'.kept ∧ plan'.toDelete <:+ plan.toDelete ∧
        plan.kept.map (·.key) = ["b"] ∧ plan'.kept.map (·.key) = ["b", "a", "d"] := by
  have hlooser : Loosens ⟨1, none⟩ ⟨1, hourPolicy.keepDuration⟩ noon
      ⟨63840915000000000, some 0⟩ :=
    ⟨Int.le_refl 1, Int.le_refl 0, by decide, by decide⟩
  have hnear : ¬RetentionSettings.ReachesTooFar ⟨1, none⟩ noon := by
    rintro ⟨d, hd, -⟩
    cases hd
  have hnear' : ¬RetentionSettings.ReachesTooFar ⟨1, hourPolicy.keepDuration⟩
      ⟨63840915000000000, some 0⟩ := by
    rintro ⟨d, hd, -, hfar⟩
    cases hd
    exact hfar (by decide)
  have haware : ∀ a ∈ fourRecords, a.time.offset.isSome := by decide
  obtain ⟨plan, plan', hplan, hplan', -, -, hkept, hdeleted⟩ := partition_of_loosens hlooser hnear
    hnear' (comparable_comparedTimes haware rfl) (comparable_comparedTimes haware rfl)
  refine ⟨hlooser, plan, plan', hplan, hplan', hkept, hdeleted, ?_, ?_⟩
  · obtain rfl : partitionAt fourRecords 1 none = plan := Except.ok.inj hplan
    rw [kept_eq_take, List.map_take, newestFirst_fourRecords]
    rfl
  · obtain rfl : partitionAt fourRecords 1 (some ⟨63840911400000000, some 0⟩) = plan' :=
      Except.ok.inj hplan'
    rw [kept_eq_take, List.map_take, newestFirst_fourRecords]
    rfl

end DumpKeeper
