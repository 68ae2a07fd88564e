import DumpKeeper.Proofs.Safety

/-!
# Whether a new backup outlives its cycle

The backup that a cycle has stored is among those that the same cycle looks at when it deletes old
ones.  It is one of the newest, but not the only one of its second if others were stored just
before: the times of a listing are cut to whole seconds, and backups of the same second keep the
order of the listing.  So those that the store lists before it come first, and which these are
depends on the order of the store alone.

* `rivals listed key now` — how many objects of the second of `now` stand before `key` in `listed`.
* `Executor.Outlives` — few enough, or the period of retention has room for the second.
* `get?_runCycle` — whether what a cycle answers is there when it answers.
* `Arrangement.byKey` — a store that lists its objects by their keys; with it, the name of an older
  backup of the same second decides.
-/

set_option autoImplicit false

namespace DumpKeeper

/-- The objects of the second of `now` that stand before `key` in a listing. -/
def rivals (listed : Objects) (key : String) (now : DateTime) : Nat :=
  (listed.takeWhile fun o => o.key != key).countP fun o =>
    o.time.any fun t => t.toUtcSeconds? == now.toUtcSeconds?

/-- A backup that was stored under `key` at `now` and is listed in `listed` is kept by its own
cycle: it is one of the newest to keep, or its second is newer than the cutoff. -/
def Executor.Outlives (x : Executor) (listed : Objects) (key : String) (now : DateTime) : Prop :=
  (rivals listed key now : Int) < x.config.retention.keepLast ∨
    ∃ cutoff u, cutoffOf x.config.retention.keepDuration now = .ok (some cutoff) ∧
      now.toUtcSeconds? = some u ∧ cutoff.utcWall < u.utcWall

/-! ## Seconds -/

/-- A later time `t'` has no earlier second. -/
theorem utcWall_le_of_toUtcSeconds? {t t' u u' : DateTime} (h : t.utcWall ≤ t'.utcWall)
    (hu : t.toUtcSeconds? = some u) (hu' : t'.toUtcSeconds? = some u') :
    u.utcWall ≤ u'.utcWall := by
  obtain ⟨-, -, rfl⟩ := DateTime.toUtcSeconds?_eq_some hu
  obtain ⟨-, -, rfl⟩ := DateTime.toUtcSeconds?_eq_some hu'
  simp only [DateTime.utcWall, Option.getD_some, Int.sub_zero, microsPerSecond] at *
  omega

/-- Of times that were cut to seconds, `u` and `u'`, those of the same reading are the same. -/
theorem utcWall_inj_of_toUtcSeconds? {t t' u u' : DateTime} (hu : t.toUtcSeconds? = some u)
    (hu' : t'.toUtcSeconds? = some u') : u.utcWall = u'.utcWall ↔ u = u' := by
  obtain ⟨-, -, rfl⟩ := DateTime.toUtcSeconds?_eq_some hu
  obtain ⟨-, -, rfl⟩ := DateTime.toUtcSeconds?_eq_some hu'
  simp [DateTime.utcWall]

/-! ## The place of the new backup -/

section Place

variable {listed : Objects} {key : String} {content : ByteArray} {now u : DateTime}

/-- No record is newer, by `newerThan`, than that of an object stored now, if no object is. -/
theorem countP_newerThan_eq_zero {os : Objects} (hu : now.toUtcSeconds? = some u)
    (h : ∀ o ∈ os, ∀ t, o.time = some t → t.utcWall ≤ now.utcWall) :
    (os.filterMap StoredObject.record?).countP (newerThan (newRecord key content u)) = 0 := by
  rw [List.countP_eq_zero]
  intro b hb
  obtain ⟨o, ho, hob⟩ := List.mem_filterMap.1 hb
  obtain ⟨-, t, ht, htb⟩ := StoredObject.record?_eq_some hob
  have := utcWall_le_of_toUtcSeconds? (h o ho t ht) htb hu
  rw [newerThan, decide_eq_true_eq]
  exact Int.not_lt.2 this

/-- The records of the same second that are `listed` before the key are those of the `rivals`. -/
theorem countP_sameTime_eq_rivals (hu : now.toUtcSeconds? = some u) :
    ((listed.takeWhile fun o => o.key != key).filterMap StoredObject.record?).countP
      (sameTime (newRecord key content u)) = rivals listed key now := by
  rw [List.countP_filterMap, rivals]
  refine List.countP_congr fun o _ => ?_
  rw [hu, StoredObject.record?]
  rcases o.time with _ | t
  · rfl
  rw [Option.bind_eq_bind, Option.bind_some, Option.any_some]
  rcases hv : t.toUtcSeconds? with _ | v
  · exact Iff.rfl
  · show sameTime _ _ = true ↔ _
    rw [sameTime, beq_iff_eq, beq_iff_eq, Option.some_inj, eq_comm]
    exact utcWall_inj_of_toUtcSeconds? hv hu

/-- **When the new backup is one of those to delete**: it does not outlive its cycle, by
`Executor.Outlives`, in the listing in which it stands. -/
theorem mem_toDelete_newRecord {x : Executor} {records : List Record} {cutoff : Option DateTime}
    (hd : listed.Distinct) (hnew : backupObject key content now ∈ listed)
    (hu : now.toUtcSeconds? = some u)
    (hlater : ∀ o ∈ listed, ∀ t, o.time = some t → t.utcWall ≤ now.utcWall)
    (hrec : recordsOf listed = .ok records)
    (hcut : cutoffOf x.config.retention.keepDuration now = .ok cutoff) :
    newRecord key content u ∈ (partitionAt records x.config.retention.keepLast cutoff).toDelete ↔
      ¬x.Outlives listed key now := by
  have hnodup : records.Nodup := List.Nodup.of_map _ (nodup_keys_of_recordsOf hrec hd)
  obtain ⟨behind, hsides⟩ := hd.eq_takeWhile_append hnew
  have hzero : records.countP (newerThan (newRecord key content u)) = 0 := by
    rw [recordsOf_eq_ok hrec]
    exact countP_newerThan_eq_zero hu hlater
  have hsplit : records = (listed.takeWhile fun o => o.key != key).filterMap StoredObject.record? ++
      newRecord key content u :: behind.filterMap StoredObject.record? := by
    conv_lhs => rw [recordsOf_eq_ok hrec, hsides]
    rw [List.filterMap_append, List.filterMap_cons_some (record?_backupObject hu)]
    rfl
  rw [hsplit] at hnodup hzero ⊢
  rw [mem_toDelete_iff hnodup, hzero, countP_sameTime_eq_rivals hu, Nat.zero_add]
  unfold isKept
  rw [Bool.or_eq_false_iff, decide_eq_false_iff_not, Executor.Outlives, not_or]
  refine and_congr_right fun _ => ?_
  rw [hcut, hu]
  rcases cutoff with _ | c
  · simp
  · rw [decide_eq_false_iff_not]
    simp [newRecord]

end Place

/-- Whether the new backup, under `key`, is among the objects when the others are pruned. -/
theorem get?_pruned {x : Executor} {w : World} {records : List Record} {cutoff : Option DateTime}
    {key : String} {content : ByteArray} {now : DateTime} (hd : w.objects.Distinct)
    (hb : beginsWith x.nodeFolder key = true) (hn : DateTime.ofReading w.now = .ok now)
    (hlater : ∀ o ∈ w.objects.below x.nodeFolder, ∀ t, o.time = some t → t.utcWall ≤ now.utcWall)
    (hrec : recordsOf ((w.store key content now).listing x.nodeFolder) = .ok records)
    (hcut : cutoffOf x.config.retention.keepDuration now = .ok cutoff) :
    (x.Outlives ((w.store key content now).listing x.nodeFolder) key now →
      (x.pruned (w.store key content now).objects records cutoff).get? key =
        some (backupObject key content now)) ∧
    (¬x.Outlives ((w.store key content now).listing x.nodeFolder) key now →
      (x.pruned (w.store key content now).objects records cutoff).get? key = none) := by
  obtain ⟨u, hu⟩ := exists_toUtcSeconds? hn
  have hstored : (w.store key content now).objects.Distinct := hd.put _
  have hlisted := World.distinct_listing hstored x.nodeFolder
  have hnew : backupObject key content now ∈ (w.store key content now).listing x.nodeFolder :=
    World.mem_listing.2 ⟨Objects.mem_put_self _ _, hb⟩
  have hnow : ∀ o ∈ (w.store key content now).listing x.nodeFolder, ∀ t, o.time = some t →
      t.utcWall ≤ now.utcWall := by
    intro o ho t ht
    obtain ⟨ho, hob⟩ := World.mem_listing.1 ho
    rcases Objects.mem_put ho with rfl | ho
    · have hnt : now = t := Option.some.inj ht
      exact Int.le_of_eq (congrArg DateTime.utcWall hnt.symm)
    · exact hlater o (List.mem_filter.2 ⟨ho, hob⟩) t ht
  have hkey : key ∈ (partitionAt records x.config.retention.keepLast cutoff).toDelete.map (·.key) ↔
      ¬x.Outlives ((w.store key content now).listing x.nodeFolder) key now := by
    rw [← mem_toDelete_newRecord hlisted hnew hu hnow hrec hcut, List.mem_map]
    refine ⟨?_, fun hmem => ⟨_, hmem, rfl⟩⟩
    rintro ⟨a, ha, hak⟩
    have hrecord : newRecord key content u ∈ records := by
      rw [recordsOf_eq_ok hrec]
      exact List.mem_filterMap.2 ⟨_, hnew, record?_backupObject hu⟩
    have hkeys := nodup_keys_of_recordsOf hrec hlisted
    rwa [List.inj_on_of_nodup_map hkeys hrecord (mem_of_mem_toDelete ha) hak.symm]
  constructor
  · intro hout
    rw [Executor.pruned, Objects.get?_without_of_notMem fun hmem => hkey.1 hmem hout]
    exact Objects.get?_put_self w.objects (backupObject key content now)
  · exact fun hout => Objects.get?_without_of_mem (hkey.2 hout)

/-- **Whether the backup that a cycle of `x` answers is there when it answers.**  Of a cycle without
faults in a world where no object of the node is from the future, the object under `key` is the dump
if it outlives the cycle, by the listing that follows the upload, and is gone if it does not. -/
theorem get?_runCycle {x : Executor} {r s : Run} {key : String} (h : r.world.Sound)
    (hr : r.world.faults = [])
    (hlater : ∀ now, DateTime.ofReading r.world.now = .ok now →
      ∀ o ∈ r.world.objects.below x.nodeFolder, ∀ t, o.time = some t → t.utcWall ≤ now.utcWall)
    (hon : (runCycle x).on r = (.ok (some key), s)) :
    ∃ content now, x.HasDump r.world key content ∧ DateTime.ofReading r.world.now = .ok now ∧
      (x.Outlives ((r.world.store key content now).listing x.nodeFolder) key now →
        s.world.objects.get? key = some (backupObject key content now)) ∧
      (¬x.Outlives ((r.world.store key content now).listing x.nodeFolder) key now →
        s.world.objects.get? key = none) := by
  obtain ⟨content, now, records, cutoff, hpick, hn, hrec, hcut, hs⟩ :=
    leaves_of_runCycle hr h.chunk hon
  rw [hs.objects]
  exact ⟨content, now, hpick.2, hn,
    get?_pruned h.distinct hpick.2.beginsWith hn (hlater now hn) hrec hcut⟩

/-! ## A crowded second -/

/-- The order of the keys, in which many stores list their objects. -/
def Arrangement.byKey : Arrangement where
  arranged os := os.mergeSort fun o p => o.key ≤ p.key
  perm os := List.mergeSort_perm os _
  filter := mergeSort_filter
    (fun _ _ _ h h' =>
      decide_eq_true (String.le_trans (of_decide_eq_true h) (of_decide_eq_true h')))
    fun o p => by simpa using String.le_total o.key p.key

/-- Two objects that are in the order of their keys stay in it, by `Arrangement.byKey`. -/
theorem Arrangement.byKey_of_le {o p : StoredObject} (h : o.key ≤ p.key) :
    Arrangement.byKey.arranged [o, p] = [o, p] := by
  refine List.mergeSort_of_pairwise ?_
  rw [List.pairwise_pair]
  exact decide_eq_true h

/-- Two objects that are not in the order of their keys are listed the other way round. -/
theorem Arrangement.byKey_of_not_le {o p : StoredObject} (h : ¬p.key ≤ o.key) :
    Arrangement.byKey.arranged [p, o] = [o, p] := by
  simp [Arrangement.byKey, List.mergeSort, List.MergeSort.Internal.splitInTwo, h]

/-- The time of a crowded second. -/
def crowdedTime : DateTime := ⟨63840916805000000, some 0⟩

/-- A run in which a backup of the same second is stored already, under the key `old`, in a store
that lists its objects by their keys. -/
def crowdedRun (old : String) : Run :=
  { world := { objects := [backupObject old (.mk #[0]) crowdedTime]
               order := .byKey
               now := .whole 1705320005
               files := .holding (.mk #[1]) ⟨1705320000, 0⟩ } }

/-- The key of the next backup of `crowdedNode`. -/
def crowdedKey : String := "backups/a_2024-01-15T12:00:00Z.rdb"

/-- The node of the crowded second, which keeps one backup. -/
def crowdedNode : Executor := .keeping "backups" "a" 1

section Crowded

variable (old : String)

theorem sound_crowdedRun : (crowdedRun old).world.Sound :=
  ⟨Objects.distinct_singleton _, show (0 : Int) < 10485760 by decide⟩

theorem utcWall_le_of_mem_crowdedRun {now : DateTime}
    (hn : DateTime.ofReading (crowdedRun old).world.now = .ok now) :
    ∀ o ∈ (crowdedRun old).world.objects.below crowdedNode.nodeFolder, ∀ t, o.time = some t →
      t.utcWall ≤ now.utcWall := by
  intro o ho t ht
  obtain rfl := List.mem_singleton.1 (List.mem_filter.1 ho).1
  cases hn
  cases ht
  decide

theorem picks_crowdedRun : crowdedNode.Picks (crowdedRun old) crowdedKey (.mk #[1]) :=
  ⟨rfl, ⟨1705320000, 0⟩, ⟨63840916800000000, some 0⟩, gives_holding rfl rfl _ _,
    by decide +kernel, by decide +kernel⟩

/-- The backup under the key `old` and the new one, as the store lists them after the upload. -/
def crowdedListing : Objects :=
  ((crowdedRun old).world.store crowdedKey (.mk #[1]) crowdedTime).listing crowdedNode.nodeFolder

/-- A backup with an earlier key stands before the new one. -/
theorem rivals_crowdedListing_eq_one :
    rivals (crowdedListing "backups/a_2024-01-15T11:00:00Z.rdb") crowdedKey crowdedTime = 1 := by
  have hlisted : crowdedListing "backups/a_2024-01-15T11:00:00Z.rdb" =
      [backupObject "backups/a_2024-01-15T11:00:00Z.rdb" (.mk #[0]) crowdedTime,
        backupObject crowdedKey (.mk #[1]) crowdedTime] :=
    Arrangement.byKey_of_le (by decide)
  rw [hlisted]
  decide +kernel

/-- A backup with a later key stands behind it. -/
theorem rivals_crowdedListing_eq_zero :
    rivals (crowdedListing "backups/a_2024-01-15T13:00:00Z.rdb") crowdedKey crowdedTime = 0 := by
  have hlisted : crowdedListing "backups/a_2024-01-15T13:00:00Z.rdb" =
      [backupObject crowdedKey (.mk #[1]) crowdedTime,
        backupObject "backups/a_2024-01-15T13:00:00Z.rdb" (.mk #[0]) crowdedTime] :=
    Arrangement.byKey_of_not_le (by decide)
  rw [hlisted]
  decide +kernel

/-- The cycle answers with its key. -/
theorem runCycle_crowdedRun :
    ∃ s, (runCycle crowdedNode).on (crowdedRun old) = (.ok (some crowdedKey), s) := by
  have hnow : DateTime.ofReading (crowdedRun old).world.now = .ok crowdedTime := rfl
  have hold : (crowdedRun old).world.objects.Datable := by
    intro o ho t ht
    obtain rfl := List.mem_singleton.1 ho
    cases ht
    exact ⟨_, rfl⟩
  have hlisted : (((crowdedRun old).world.store crowdedKey (.mk #[1]) crowdedTime).listing
      crowdedNode.nodeFolder).Datable :=
    World.datable_listing.2 ((hold.put hnow crowdedKey (.mk #[1])).below crowdedNode.nodeFolder)
  have hrec := recordsOf_of_datable hlisted
  obtain ⟨s, hs, -⟩ := exists_runCycle (r := crowdedRun old) (x := crowdedNode) rfl
    (sound_crowdedRun old).chunk (picks_crowdedRun old) hnow hrec rfl
  exact ⟨s, hs⟩

end Crowded

/-- **A new backup can be lost in its own cycle**, although `crowdedNode` is to keep one and none is
from the future: another one of the same second has an earlier key. -/
theorem lost_in_crowdedRun :
    1 ≤ crowdedNode.config.retention.keepLast ∧
      (crowdedRun "backups/a_2024-01-15T11:00:00Z.rdb").world.Sound ∧
      (crowdedRun "backups/a_2024-01-15T11:00:00Z.rdb").world.faults = [] ∧
      (∀ now, DateTime.ofReading (crowdedRun "backups/a_2024-01-15T11:00:00Z.rdb").world.now =
        .ok now →
          ∀ o ∈ (crowdedRun "backups/a_2024-01-15T11:00:00Z.rdb").world.objects.below
            crowdedNode.nodeFolder, ∀ t, o.time = some t → t.utcWall ≤ now.utcWall) ∧
      ∃ s, (runCycle crowdedNode).on (crowdedRun "backups/a_2024-01-15T11:00:00Z.rdb") =
          (.ok (some crowdedKey), s) ∧
        s.world.objects.get? crowdedKey = none := by
  have hlater := fun now =>
    @utcWall_le_of_mem_crowdedRun "backups/a_2024-01-15T11:00:00Z.rdb" now
  refine ⟨Int.le_refl 1, sound_crowdedRun _, rfl, hlater, ?_⟩
  obtain ⟨s, hs⟩ := runCycle_crowdedRun "backups/a_2024-01-15T11:00:00Z.rdb"
  refine ⟨s, hs, ?_⟩
  obtain ⟨content, now, records, cutoff, hpick, hn, hrec, hcut, hleaves⟩ :=
    leaves_of_runCycle rfl (sound_crowdedRun _).chunk hs
  obtain ⟨-, rfl⟩ := hpick.2.unique (picks_crowdedRun _).2
  cases hn
  rw [hleaves.objects]
  refine (get?_pruned (sound_crowdedRun _).distinct hpick.2.beginsWith rfl (hlater _ rfl) hrec
    hcut).2 fun hkept => ?_
  rcases hkept with hfew | ⟨cutoff, u, hcut, -⟩
  · change (rivals (crowdedListing "backups/a_2024-01-15T11:00:00Z.rdb") crowdedKey crowdedTime :
      Int) < 1 at hfew
    rw [rivals_crowdedListing_eq_one] at hfew
    exact absurd hfew (by decide)
  · cases hcut

/-- If the other one has a later key, the new one is listed first, and stays. -/
theorem kept_in_crowdedRun :
    (crowdedRun "backups/a_2024-01-15T13:00:00Z.rdb").world.Sound ∧
      (crowdedRun "backups/a_2024-01-15T13:00:00Z.rdb").world.faults = [] ∧
      ∃ s, (runCycle crowdedNode).on (crowdedRun "backups/a_2024-01-15T13:00:00Z.rdb") =
          (.ok (some crowdedKey), s) ∧
        s.world.objects.get? crowdedKey =
          some (backupObject crowdedKey (.mk #[1]) crowdedTime) := by
  refine ⟨sound_crowdedRun _, rfl, ?_⟩
  obtain ⟨s, hs⟩ := runCycle_crowdedRun "backups/a_2024-01-15T13:00:00Z.rdb"
  refine ⟨s, hs, ?_⟩
  obtain ⟨content, now, hdump, hn, hin, -⟩ := get?_runCycle (sound_crowdedRun _) rfl
    (fun _ => utcWall_le_of_mem_crowdedRun _) hs
  obtain ⟨-, rfl⟩ := hdump.unique (picks_crowdedRun _).2
  cases hn
  refine hin (.inl ?_)
  have hfew : (rivals (crowdedListing "backups/a_2024-01-15T13:00:00Z.rdb") crowdedKey crowdedTime :
      Int) < 1 := by
    rw [rivals_crowdedListing_eq_zero]
    decide
  exact hfew

end DumpKeeper
