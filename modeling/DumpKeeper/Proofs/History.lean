import DumpKeeper.Proofs.Safety
import Mathlib.Data.List.Dedup

/-!
# What a store holds after many cycles

When nothing fails, nobody else writes to the folder of a node, and no two cycles fall into the same
second, the objects of the node are told by the uploads alone: they are the latest uploads of the
keys that were used most recently, as many as are to be kept.  An upload under a key that was used
before makes that key the most recent one again, whether its object is still there or not.

* `Upload`, `latest` — an upload, and the latest uploads of a history, newest first.
* `Executor.Favours` — a run in which nothing is in the way of an upload.
* `Executor.Backups` — the runs that cycles lead to, with the uploads that were made.
* `Executor.Reflects` — the invariant, kept by each cycle.
* `objects_after_backups` — the objects after any number of cycles.
-/

set_option autoImplicit false

namespace DumpKeeper

/-! ## Histories -/

/-- A dump with its `content` that is stored under `key` at some `time`. -/
structure Upload where
  key : String
  content : ByteArray
  time : DateTime

namespace Upload

/-- The object that the upload `u` leaves. -/
def object (u : Upload) : StoredObject := backupObject u.key u.content u.time

/-- The whole second of the upload `u`. -/
def second (u : Upload) : Int := u.time.utcWall / microsPerSecond

end Upload

/-- The latest upload of each key, newest first, of a history that is told newest first. -/
def latest : List Upload → List Upload
  | [] => []
  | u :: earlier => u :: (latest earlier).filter fun v => v.key != u.key

theorem latest_sublist (history : List Upload) : (latest history).Sublist history := by
  induction history with
  | nil => exact List.Sublist.refl _
  | cons u earlier ih => exact (List.filter_sublist.trans ih).cons_cons u

/-- The upload `u` in front of those of other keys. -/
theorem nodup_keys_cons {uploads : List Upload} (h : (uploads.map (·.key)).Nodup) (u : Upload) :
    ((u :: uploads.filter fun v => v.key != u.key).map (·.key)).Nodup := by
  rw [List.map_cons, List.nodup_cons]
  refine ⟨fun hu => ?_, h.sublist (List.filter_sublist.map _)⟩
  obtain ⟨v, hv, hvu⟩ := List.mem_map.1 hu
  simpa [hvu] using (List.mem_filter.1 hv).2

theorem nodup_keys_latest (history : List Upload) : ((latest history).map (·.key)).Nodup := by
  induction history with
  | nil => exact List.nodup_nil
  | cons u earlier ih => exact nodup_keys_cons ih u

theorem mem_keys_latest {history : List Upload} {key : String} :
    key ∈ (latest history).map (·.key) ↔ key ∈ history.map (·.key) := by
  induction history with
  | nil => exact Iff.rfl
  | cons u earlier ih =>
    rw [latest, List.map_cons, List.map_cons, List.mem_cons, List.mem_cons]
    by_cases hk : key = u.key
    · simp [hk]
    · simp only [hk, false_or]
      rw [← ih, List.mem_map, List.mem_map]
      constructor
      · rintro ⟨v, hv, rfl⟩
        exact ⟨v, (List.mem_filter.1 hv).1, rfl⟩
      · rintro ⟨v, hv, rfl⟩
        exact ⟨v, List.mem_filter.2 ⟨hv, by simpa using hk⟩, rfl⟩

/-- There are as many `latest` uploads as keys in `history`. -/
theorem length_latest (history : List Upload) :
    (latest history).length = (history.map (·.key)).dedup.length := by
  have hperm : ((latest history).map (·.key)).Perm (history.map (·.key)).dedup := by
    rw [List.perm_ext_iff_of_nodup (nodup_keys_latest history) (List.nodup_dedup _)]
    intro key
    rw [mem_keys_latest, List.mem_dedup]
  rw [← hperm.length_eq, List.length_map]

/-- Leaving out `key` before or after the first `n` uploads are taken makes no difference, if one
more is taken before. -/
theorem take_filter_take {uploads : List Upload} (h : (uploads.map (·.key)).Nodup) (key : String)
    (n : Nat) :
    ((uploads.take (n + 1)).filter fun v => v.key != key).take n =
      (uploads.filter fun v => v.key != key).take n := by
  let other : Upload → Bool := fun v => v.key != key
  change ((uploads.take (n + 1)).filter other).take n = (uploads.filter other).take n
  induction uploads generalizing n with
  | nil => rfl
  | cons v rest ih =>
    rw [List.map_cons, List.nodup_cons] at h
    rw [List.take_succ_cons]
    by_cases hv : v.key = key
    · -- the key is found here, and so nowhere behind
      have hrest : ∀ w ∈ rest, other w = true := by
        intro w hw
        rw [bne_iff_ne, ← hv]
        exact fun hk => h.1 (hk ▸ List.mem_map_of_mem hw)
      have hv' : ¬other v = true := by simpa [other] using hv
      rw [List.filter_cons_of_neg hv', List.filter_cons_of_neg hv', List.filter_eq_self.2 hrest,
        List.filter_eq_self.2 fun w hw => hrest w (List.mem_of_mem_take hw), List.take_take,
        Nat.min_self]
    · have hv' : other v = true := by simpa [other] using hv
      rw [List.filter_cons_of_pos hv', List.filter_cons_of_pos hv']
      cases n with
      | zero => rfl
      | succ n => rw [List.take_succ_cons, List.take_succ_cons, ih h.2]

/-- What was kept of the `earlier` uploads is enough to tell what is kept now. -/
theorem take_latest_cons (u : Upload) (earlier : List Upload) (n : Nat) :
    (u :: ((latest earlier).take n).filter fun v => v.key != u.key).take n =
      (latest (u :: earlier)).take n := by
  cases n with
  | zero => rfl
  | succ n =>
    rw [latest, List.take_succ_cons, List.take_succ_cons,
      take_filter_take (nodup_keys_latest earlier)]

/-! ## Pruning -/

namespace Upload

/-- The record that a listing gives of the upload `u`. -/
def record (u : Upload) : Record :=
  newRecord u.key u.content ⟨u.time.utcWall - u.time.utcWall % microsPerSecond, some 0⟩

/-- The time of the upload `u` is one that a listing can show. -/
def IsDated (u : Upload) : Prop := ∃ t, u.time.toUtcSeconds? = some t

theorem IsDated.record? {u : Upload} (h : u.IsDated) : u.object.record? = some u.record := by
  obtain ⟨t, ht⟩ := h
  rw [object, record?_backupObject ht, record, (DateTime.toUtcSeconds?_eq_some ht).2.2]

/-- The uploads `u` and `v` of different seconds have records of different times. -/
theorem newerThan_record {u v : Upload} (h : v.second < u.second) :
    newerThan v.record u.record = true := by
  rw [newerThan, decide_eq_true_eq]
  simp only [record, newRecord, second, DateTime.utcWall, Option.getD_some, microsPerSecond] at *
  omega

end Upload

/-- What is there when one more dump, that of `u`, has been stored. -/
theorem put_object_perm {uploads : List Upload} {os : Objects} (hd : os.Distinct)
    (hos : os.Perm (uploads.map Upload.object)) (u : Upload) :
    (Objects.put u.object os).Perm
      ((u :: uploads.filter fun v => v.key != u.key).map Upload.object) := by
  refine (Objects.put_perm hd _).trans (List.Perm.cons _ ((hos.filter _).trans ?_))
  rw [List.filter_map]
  exact List.Perm.refl _

/-- The objects of dated `uploads` have records. -/
theorem datable_of_perm {uploads : List Upload} {os : Objects} (hdated : ∀ u ∈ uploads, u.IsDated)
    (hos : os.Perm (uploads.map Upload.object)) : os.Datable := by
  intro o ho t ht
  obtain ⟨u, hu, rfl⟩ := List.mem_map.1 (hos.subset ho)
  cases ht
  exact hdated u hu

/-- The records of objects that `uploads` have left, in whatever order. -/
theorem newestFirst_records {uploads : List Upload} {os : Objects} {records : List Record}
    (hdated : ∀ u ∈ uploads, u.IsDated)
    (hseconds : uploads.Pairwise fun u v => v.second < u.second)
    (hos : os.Perm (uploads.map Upload.object)) (hrec : recordsOf os = .ok records) :
    newestFirst records = uploads.map Upload.record := by
  refine newestFirst_eq_of_perm ?_ ?_
  · rw [recordsOf_eq_ok hrec]
    refine List.Perm.trans (List.Perm.of_eq ?_) (hos.filterMap StoredObject.record?).symm
    rw [List.filterMap_map, ← List.filterMap_eq_map]
    exact List.filterMap_congr fun u hu => ((hdated u hu).record?).symm
  · exact List.pairwise_map.2 (hseconds.imp fun h => Upload.newerThan_record h)

/-- Without the keys of all but the first `n` uploads, the first `n` are left. -/
theorem filter_notMem_drop {uploads : List Upload} (h : (uploads.map (·.key)).Nodup) (n : Nat) :
    (uploads.filter fun u => !((uploads.drop n).map (·.key)).contains u.key) = uploads.take n := by
  have hsplit := List.take_append_drop n uploads
  have hdisjoint : ∀ u ∈ uploads.take n, u.key ∉ (uploads.drop n).map (·.key) := by
    rw [← hsplit, List.map_append, List.nodup_append] at h
    exact fun u hu hd => h.2.2 _ (List.mem_map_of_mem hu) _ hd rfl
  conv_lhs => rw [← hsplit, List.filter_append, hsplit]
  rw [List.filter_eq_self.2 fun u hu => by simpa using hdisjoint u hu,
    List.filter_eq_nil_iff.2 fun u hu => by simpa using List.mem_map_of_mem hu, List.append_nil]

/-- **Pruning keeps the first uploads**, in whatever order the objects are `listed`. -/
theorem pruned_perm {x : Executor} {n : Nat} (hn : x.config.retention.keepLast = n)
    {uploads : List Upload} {os listed : Objects} {records : List Record}
    (hkeys : (uploads.map (·.key)).Nodup) (hdated : ∀ u ∈ uploads, u.IsDated)
    (hseconds : uploads.Pairwise fun u v => v.second < u.second)
    (hos : os.Perm (uploads.map Upload.object)) (hlisted : listed.Perm os)
    (hrec : recordsOf listed = .ok records) :
    (x.pruned os records none).Perm ((uploads.take n).map Upload.object) := by
  have hdelete : (partitionAt records x.config.retention.keepLast none).toDelete.map (·.key) =
      (uploads.drop n).map (·.key) := by
    rw [hn, toDelete_of_no_cutoff, newestFirst_records hdated hseconds (hlisted.trans hos) hrec,
      ← List.map_drop,
      List.map_map]
    rfl
  rw [Executor.pruned, hdelete, Objects.without]
  refine (hos.filter _).trans (List.Perm.of_eq ?_)
  rw [List.filter_map, ← filter_notMem_drop hkeys n]
  rfl

/-! ## Runs of many cycles -/

/-- In `r` nothing is in the way of the upload `u` by `x`: no call fails, the role permits it, the
dump is there with its content and key, and the clock shows its time. -/
structure Executor.Favours (x : Executor) (r : Run) (u : Upload) : Prop where
  /-- The store is one. -/
  sound : r.world.Sound
  /-- No fault is planned. -/
  calm : r.world.faults = []
  /-- The dump is to be stored. -/
  picks : x.Picks r u.key u.content
  /-- The time is that of the clock. -/
  clock : DateTime.ofReading r.world.now = .ok u.time

/-- The runs that cycles of `x` lead to, with the uploads of the cycles, newest first.  Between two
cycles anything may change but the objects of the node, and the clock reaches another second. -/
inductive Executor.Backups (x : Executor) : List Upload → Run → Prop
  /-- No object of the node is there. -/
  | start {r : Run} (h : r.world.objects.below x.nodeFolder = []) : Backups x [] r
  /-- One more cycle. -/
  | cycle {history : List Upload} {r r' : Run} {u : Upload} (past : Backups x history r)
      (alone : (r'.world.objects.below x.nodeFolder).Perm (r.world.objects.below x.nodeFolder))
      (favours : x.Favours r' u) (later : ∀ v ∈ history.head?, v.second < u.second) :
      Backups x (u :: history) ((runCycle x).on r').2

/-- What is known in the run `r` about the uploads of the past, `history`, and the objects that are
left of them where `x` keeps `n` backups. -/
structure Executor.Reflects (x : Executor) (n : Nat) (history : List Upload) (r : Run) : Prop where
  /-- The objects of the node are the latest uploads. -/
  below : (r.world.objects.below x.nodeFolder).Perm (((latest history).take n).map Upload.object)
  /-- Later uploads are of later seconds. -/
  seconds : history.Pairwise fun u v => v.second < u.second
  /-- The times of the uploads can be listed. -/
  dated : ∀ u ∈ history, u.IsDated

section Runs

variable {x : Executor} {n : Nat} {history : List Upload} {r r' : Run} {u : Upload}

/-- A cycle after the last one of `history` is after all of them. -/
theorem Executor.Reflects.second_lt (h : x.Reflects n history r)
    (later : ∀ v ∈ history.head?, v.second < u.second) : ∀ v ∈ history, v.second < u.second := by
  rcases history with _ | ⟨w, rest⟩
  · exact fun v hv => absurd hv List.not_mem_nil
  · have hw := later w rfl
    intro v hv
    rcases List.mem_cons.1 hv with rfl | hv
    · exact hw
    · exact Int.lt_trans ((List.pairwise_cons.1 h.seconds).1 v hv) hw

/-- **One cycle.**  It answers with the key of the upload `u`, what is left of `history` is left of
`u :: history`, and nothing else has changed. -/
theorem Executor.Reflects.runCycle (hn : x.config.retention.keepLast = n)
    (hduration : x.config.retention.keepDuration = none) (h : x.Reflects n history r)
    (alone : (r'.world.objects.below x.nodeFolder).Perm (r.world.objects.below x.nodeFolder))
    (favours : x.Favours r' u) (later : ∀ v ∈ history.head?, v.second < u.second) :
    ∃ s, (DumpKeeper.runCycle x).on r' = (.ok (some u.key), s) ∧ x.Reflects n (u :: history) s ∧
      s.world.objects.outside x.nodeFolder = r'.world.objects.outside x.nodeFolder := by
  have hlater : ∀ v ∈ history, v.second < u.second := h.second_lt later
  have hdated : ∀ v ∈ u :: history, v.IsDated := by
    intro v hv
    rcases List.mem_cons.1 hv with rfl | hv
    · exact exists_toUtcSeconds? favours.clock
    · exact h.dated v hv
  have hseconds := List.pairwise_cons.2 ⟨hlater, h.seconds⟩
  -- the uploads whose objects are there when the dump has been stored
  let present := u :: ((latest history).take n).filter fun v => v.key != u.key
  have hpresent : present.Sublist (u :: history) :=
    ((List.filter_sublist.trans (List.take_sublist _ _)).trans (latest_sublist history)).cons_cons u
  have hkeys : (present.map (·.key)).Nodup :=
    nodup_keys_cons ((nodup_keys_latest history).sublist ((List.take_sublist _ _).map _)) u
  have hperm : (Objects.put u.object (r'.world.objects.below x.nodeFolder)).Perm
      (present.map Upload.object) :=
    put_object_perm (favours.sound.distinct.sublist List.filter_sublist) (alone.trans h.below) u
  rw [← Objects.below_put _ (o := u.object) favours.picks.2.beginsWith] at hperm
  have hdated' : ∀ v ∈ present, v.IsDated := fun v hv => hdated v (hpresent.subset hv)
  have hlisted := (r'.world.store u.key u.content u.time).listing_perm x.nodeFolder
  have hrec := recordsOf_of_datable (datable_of_perm hdated' (hlisted.trans hperm))
  have hcut : cutoffOf x.config.retention.keepDuration u.time = .ok none := by
    rw [hduration]
    rfl
  obtain ⟨s, hs, hleaves⟩ := exists_runCycle favours.calm favours.sound.chunk favours.picks
    favours.clock hrec hcut
  refine ⟨s, hs, ⟨?_, hseconds, hdated⟩, ?_⟩
  · rw [hleaves.objects, below_pruned, ← take_latest_cons]
    exact pruned_perm hn hkeys hdated' (hseconds.sublist hpresent) hperm hlisted hrec
  · rw [hleaves.objects]
    exact (outside_pruned hrec none).trans (Objects.outside_put _ favours.picks.2.beginsWith)

/-- **Any number of cycles** keep `Executor.Reflects`. -/
theorem Executor.Backups.reflects (hn : x.config.retention.keepLast = n)
    (hduration : x.config.retention.keepDuration = none) (h : x.Backups history r) :
    x.Reflects n history r := by
  induction h with
  | start h =>
    refine ⟨?_, List.Pairwise.nil, fun u hu => absurd hu List.not_mem_nil⟩
    rw [h, latest, List.take_nil]
    exact List.Perm.refl _
  | cycle past alone favours later ih =>
    -- the run lemma is the step lemma at the cycle on top of those before
    obtain ⟨s, hs, hreflects, -⟩ := ih.runCycle hn hduration alone favours later
    rwa [hs]

/-- **The objects after any number of cycles.**  When nothing is in its way, a cycle of `x` answers
with the key of its dump, and leaves of the node the latest uploads of the `n` most recent keys, and
all other objects as they were. -/
theorem objects_after_backups (hn : x.config.retention.keepLast = n)
    (hduration : x.config.retention.keepDuration = none) (past : x.Backups history r)
    (alone : (r'.world.objects.below x.nodeFolder).Perm (r.world.objects.below x.nodeFolder))
    (favours : x.Favours r' u) (later : ∀ v ∈ history.head?, v.second < u.second) :
    ∃ s, (DumpKeeper.runCycle x).on r' = (.ok (some u.key), s) ∧
      (s.world.objects.below x.nodeFolder).Perm
        (((latest (u :: history)).take n).map Upload.object) ∧
      (s.world.objects.below x.nodeFolder).length =
        min n ((u :: history).map (·.key)).dedup.length ∧
      s.world.objects.outside x.nodeFolder = r'.world.objects.outside x.nodeFolder := by
  obtain ⟨s, hs, hreflects, houtside⟩ :=
    (past.reflects hn hduration).runCycle hn hduration alone favours later
  refine ⟨s, hs, hreflects.below, ?_, houtside⟩
  rw [hreflects.below.length_eq, List.length_map, List.length_take, length_latest]

end Runs

/-! ## Two backups -/

/-- The first of two uploads. -/
def firstUpload : Upload :=
  ⟨"backups/a_2024-01-15T12:00:00Z.rdb", .mk #[1], ⟨63840916805000000, some 0⟩⟩

/-- The second of two uploads, a minute after `firstUpload`. -/
def secondUpload : Upload :=
  ⟨"backups/a_2024-01-15T12:01:00Z.rdb", .mk #[2], ⟨63840916865000000, some 0⟩⟩

/-- A run before `firstUpload`, with an object of somebody else. -/
def firstRun : Run :=
  .holding firstUpload.content ⟨1705320000, 0⟩ 1705320005 [backupObject "b" (.mk #[0]) ⟨0, none⟩]

/-- A run before `secondUpload`, in which another dump is there. -/
def secondRun : Run :=
  .holding secondUpload.content ⟨1705320060, 0⟩ 1705320065
    ((runCycle (.keeping "backups" "a" 1)).on firstRun).2.world.objects

theorem favours_firstRun : (Executor.keeping "backups" "a" 1).Favours firstRun firstUpload :=
  ⟨sound_holding (Objects.distinct_singleton _) _ _ _, rfl,
    picks_keeping _ _ _ _ _ _ _ (t := ⟨63840916800000000, some 0⟩) (by decide +kernel)
      (by decide +kernel), rfl⟩

theorem favours_secondRun : (Executor.keeping "backups" "a" 1).Favours secondRun secondUpload :=
  ⟨sound_holding (sound_runCycle _ favours_firstRun.sound).distinct _ _ _, rfl,
    picks_keeping _ _ _ _ _ _ _ (t := ⟨63840916860000000, some 0⟩) (by decide +kernel)
      (by decide +kernel), rfl⟩

/-- Where one backup is to be kept, `secondUpload` replaces `firstUpload`. -/
theorem objects_after_two_backups :
    (Executor.keeping "backups" "a" 1).Backups [firstUpload]
        ((runCycle (.keeping "backups" "a" 1)).on firstRun).2 ∧
      ∃ s, (runCycle (.keeping "backups" "a" 1)).on secondRun = (.ok (some secondUpload.key), s) ∧
        (s.world.objects.below (Executor.keeping "backups" "a" 1).nodeFolder).Perm
          [secondUpload.object] := by
  have hpast : (Executor.keeping "backups" "a" 1).Backups [firstUpload]
      ((runCycle (.keeping "backups" "a" 1)).on firstRun).2 :=
    .cycle (.start (by decide +kernel)) (List.Perm.refl _) favours_firstRun
      fun v hv => by cases hv
  have hlater : ∀ v ∈ [firstUpload].head?, v.second < secondUpload.second := by
    intro v hv
    rw [List.head?_cons, Option.mem_some_iff] at hv
    rw [← hv]
    decide
  have halone : (secondRun.world.objects.below (Executor.keeping "backups" "a" 1).nodeFolder).Perm
      (((runCycle (.keeping "backups" "a" 1)).on firstRun).2.world.objects.below
        (Executor.keeping "backups" "a" 1).nodeFolder) := by
    rw [secondRun, Run.holding]
  obtain ⟨s, hs, hbelow, -⟩ :=
    objects_after_backups (n := 1) rfl rfl hpast halone favours_secondRun hlater
  rw [latest, List.take_succ_cons, List.take_zero, List.map_singleton] at hbelow
  exact ⟨hpast, s, hs, hbelow⟩

end DumpKeeper
