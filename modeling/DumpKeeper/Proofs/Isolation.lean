import DumpKeeper.Proofs.Safety

/-!
# Nodes that share a folder

Several nodes can keep their backups in the same bucket and below the same folder; each of them
makes its cycles, in whatever order.  The backups of one node are told from those of the others by
their keys alone, and this works just as long as the name of the other node does not begin with the
name of this one and an underscore.

* `Turns` — what two nodes can have done with a bucket, and which keys the second one has used.
* `Isolated` — no cycle of the first node takes an object of the second one away.
* `Turns.key_eq` — the invariant: the keys of the second node are made of its name.
* `isolated_iff` — when nodes are isolated.
-/

set_option autoImplicit false

namespace DumpKeeper

/-! ## Turns -/

/-- `x` makes the backups of `node` below `folder`, whatever else is set. -/
structure Executor.Serves (x : Executor) (folder node : String) : Prop where
  /-- The folder. -/
  folder : x.config.storage.folder = folder
  /-- The name of the node. -/
  node : x.config.redis.nodeName = node

/-- What the nodes `first` and `second` can have made of a bucket by turns, together with the keys
of the uploads of `second`.  Apart from the objects, a turn may find the world in any state: with
any dump, any role, any clock and any faults. -/
inductive Turns (folder first second : String) : Objects → List String → Prop
  /-- Nobody has done anything. -/
  | start (os : Objects) : Turns folder first second os []
  /-- A cycle of the first node. -/
  | first {os : Objects} {keys : List String} {x : Executor} {r : Run}
      (past : Turns folder first second os keys) (serves : x.Serves folder first)
      (sound : r.world.Sound) (found : r.world.objects = os) :
      Turns folder first second ((runCycle x).on r).2.world.objects keys
  /-- A cycle of the second node. -/
  | second {os : Objects} {keys : List String} {x : Executor} {r : Run}
      (past : Turns folder first second os keys) (serves : x.Serves folder second)
      (sound : r.world.Sound) (found : r.world.objects = os) :
      Turns folder first second ((runCycle x).on r).2.world.objects
        (((uploaded? x r).map (·.1)).toList ++ keys)

/-- Whatever turns were taken, no cycle of the node `first` takes an object away that `second` has
uploaded. -/
def Isolated (folder first second : String) : Prop :=
  ∀ os keys, Turns folder first second os keys →
    ∀ x r, Executor.Serves x folder first → r.world.Sound → r.world.objects = os →
      ∀ o ∈ os, o.key ∈ keys → o ∈ ((runCycle x).on r).2.world.objects

variable {folder first second : String}

/-- **The keys of the node `second` are made of its name.** -/
theorem Turns.key_eq {os : Objects} {keys : List String} (h : Turns folder first second os keys)
    {key : String} (hkey : key ∈ keys) :
    ∃ t, backupKey? (dropEndSlashes folder) second t = some key := by
  -- cycles of the first node make no keys of the second one
  induction h with
  | start => exact absurd hkey List.not_mem_nil
  | first past serves sound found ih => exact ih hkey
  | @second os keys x r past serves sound found ih =>
    rcases List.mem_append.1 hkey with hkey | hkey
    · rcases hup : uploaded? x r with _ | ⟨key', content, t⟩
      · rw [hup] at hkey
        exact absurd hkey List.not_mem_nil
      · rw [hup] at hkey
        obtain rfl : key = key' := by simpa using hkey
        obtain ⟨⟨-, changed, time, -, -, hmade⟩, -⟩ := stores_of_uploaded? sound.chunk hup
        rw [StorageTarget.cleanFolder, serves.folder, serves.node] at hmade
        exact ⟨time, hmade⟩
    · exact ih hkey

theorem Executor.Serves.nodeFolder {x : Executor} (h : x.Serves folder first) :
    x.nodeFolder = DumpKeeper.nodeFolder (dropEndSlashes folder) first := by
  rw [Executor.nodeFolder, StorageTarget.cleanFolder, h.folder, h.node]

/-- Nodes are isolated if the name of `second` does not begin like the keys of `first`. -/
theorem isolated_of_not_beginsWith (hne : first ≠ second)
    (h : beginsWith (first ++ "_") second = false) : Isolated folder first second := by
  intro os keys turns x r serves sound found o ho hkey
  obtain ⟨t, hmade⟩ := turns.key_eq hkey
  have hother : beginsWith x.nodeFolder o.key = false := by
    rw [serves.nodeFolder, ← Bool.not_eq_true, beginsWith_nodeFolder_iff hmade, not_or, h]
    exact ⟨hne, Bool.false_ne_true⟩
  rw [← found] at ho
  have hout := Objects.mem_outside.2 ⟨ho, hother⟩
  rw [← outside_runCycle x sound.chunk] at hout
  exact (Objects.mem_outside.1 hout).1

/-! ## Nodes that are not isolated -/

theorem pruned_of_length_le {x : Executor} {os : Objects} {records : List Record} {n : Nat}
    (hn : x.config.retention.keepLast = n) (h : records.length ≤ n) :
    x.pruned os records none = os := by
  have hnone : (newestFirst records).drop n = [] := by
    rw [List.drop_eq_nil_iff, (newestFirst_perm records).length_eq]
    exact h
  rw [Executor.pruned, hn, toDelete_of_no_cutoff, hnone, List.map_nil, Objects.without_nil]

/-- Where `x` is to keep no backup, all of the node are deleted. -/
theorem notMem_pruned_of_keepLast_eq_zero {x : Executor} {os : Objects} {records : List Record}
    (hn : x.config.retention.keepLast = (0 : Nat)) {o p : StoredObject} {a : Record}
    (hrec : recordsOf os = .ok records) (hp : p ∈ os) (ha : p.record? = some a)
    (hk : p.key = o.key) (os' : Objects) : o ∉ x.pruned os' records none := by
  rw [Executor.pruned, hn, toDelete_of_no_cutoff, List.drop_zero, Objects.mem_without, not_and,
    not_not]
  intro _
  have hmem : a ∈ newestFirst records := by
    rw [(newestFirst_perm records).mem_iff, recordsOf_eq_ok hrec]
    exact List.mem_filterMap.2 ⟨p, hp, ha⟩
  rw [← hk, ← (StoredObject.record?_eq_some ha).1]
  exact List.mem_map_of_mem hmem

/-- One upload of `node` into an empty bucket. -/
theorem exists_first_backup (folder node : String) :
    ∃ key s, backupKey? (dropEndSlashes folder) node ⟨63840916800000000, some 0⟩ = some key ∧
      (∃ t, uploaded? (.keeping folder node 1)
        (.holding (.mk #[1]) ⟨1705320000, 0⟩ 1705320005 []) = some (key, .mk #[1], t)) ∧
      (runCycle (.keeping folder node 1)).on
        (.holding (.mk #[1]) ⟨1705320000, 0⟩ 1705320005 []) = (.ok (some key), s) ∧
      s.world.objects = [backupObject key (.mk #[1]) ⟨63840916805000000, some 0⟩] := by
  have htime : DateTime.ofUnixSeconds (FileTime.wholeSeconds ⟨1705320000, 0⟩) =
      .ok ⟨63840916800000000, some 0⟩ := by decide +kernel
  have hnow : DateTime.ofReading (.whole 1705320005) = .ok ⟨63840916805000000, some 0⟩ := rfl
  obtain ⟨key, hkey⟩ : ∃ key,
      backupKey? (dropEndSlashes folder) node ⟨63840916800000000, some 0⟩ = some key := ⟨_, rfl⟩
  have hpick := picks_keeping folder node 1 (.mk #[1]) ⟨1705320000, 0⟩ 1705320005 [] htime hkey
  have hchunk := (sound_holding Objects.distinct_nil (.mk #[1]) ⟨1705320000, 0⟩ 1705320005).chunk
  obtain ⟨s, records, hs, hrec, hleaves⟩ :=
    exists_runCycle_keeping folder node 1 (.mk #[1]) Objects.datable_nil htime hkey hnow
  refine ⟨key, s, hkey, exists_uploaded? rfl hchunk hnow hpick, hs, ?_⟩
  rw [hleaves.objects]
  refine pruned_of_length_le (n := 1) rfl ?_
  rw [recordsOf_eq_ok hrec]
  refine (List.length_filterMap_le _ _).trans ?_
  rw [(World.listing_perm _ _).length_eq]
  exact List.length_filter_le _ _

/-- A node that is to keep no backup deletes `old`, and all that begins like its keys. -/
theorem notMem_runCycle_of_beginsWith {os : Objects} (hdatable : os.Datable) {old : StoredObject}
    (hold : old ∈ os) {a : Record} (ha : old.record? = some a)
    (hb : beginsWith (nodeFolder (dropEndSlashes folder) first) old.key = true) :
    old ∉ ((runCycle (.keeping folder first 0)).on
      (.holding (.mk #[2]) ⟨1705320060, 0⟩ 1705320065 os)).2.world.objects := by
  have htime : DateTime.ofUnixSeconds (FileTime.wholeSeconds ⟨1705320060, 0⟩) =
      .ok ⟨63840916860000000, some 0⟩ := by decide +kernel
  have hnow : DateTime.ofReading (.whole 1705320065) = .ok ⟨63840916865000000, some 0⟩ := rfl
  obtain ⟨key, hkey⟩ : ∃ key,
      backupKey? (dropEndSlashes folder) first ⟨63840916860000000, some 0⟩ = some key := ⟨_, rfl⟩
  obtain ⟨s, records, hs, hrec, hleaves⟩ :=
    exists_runCycle_keeping folder first 0 (.mk #[2]) hdatable htime hkey hnow
  let new : StoredObject := backupObject key (.mk #[2]) ⟨63840916865000000, some 0⟩
  rw [hs, hleaves.objects]
  -- the object is listed, or the new one has its key
  by_cases hk : old.key = key
  · have hnew : new.record? = some _ := record?_backupObject rfl
    refine notMem_pruned_of_keepLast_eq_zero rfl hrec ?_ hnew hk.symm _
    exact World.mem_listing.2 ⟨Objects.mem_put_self _ _, beginsWith_backupKey? hkey⟩
  · refine notMem_pruned_of_keepLast_eq_zero rfl hrec ?_ ha rfl _
    exact World.mem_listing.2 ⟨Objects.mem_put_of_ne hold hk, hb⟩

/-- **A node whose keys begin like those of another one loses them to it.**  The node `second`
uploads a dump; then `first`, which is to keep none, makes a cycle. -/
theorem not_isolated_of_beginsWith (h : beginsWith (first ++ "_") second = true) :
    ¬Isolated folder first second := by
  intro hiso
  obtain ⟨key, s, hkey, ⟨t, hup⟩, hs, hobjects⟩ := exists_first_backup folder second
  let old : StoredObject := backupObject key (.mk #[1]) ⟨63840916805000000, some 0⟩
  have hturn : Turns folder first second s.world.objects [key] := by
    have hsound := sound_holding Objects.distinct_nil (.mk #[1]) ⟨1705320000, 0⟩ 1705320005
    have hserves : (Executor.keeping folder second 1).Serves folder second := ⟨rfl, rfl⟩
    have hstart : Turns folder first second [] [] := .start []
    have hstep := hstart.second hserves hsound rfl
    rw [hs, hup] at hstep
    exact hstep
  have hdistinct : s.world.objects.Distinct := by
    rw [hobjects]
    exact Objects.distinct_singleton _
  have hdatable : s.world.objects.Datable := by
    rw [hobjects]
    exact Objects.datable_nil.put (r := .whole 1705320005) rfl key (.mk #[1])
  have hold : old ∈ s.world.objects := by
    rw [hobjects]
    exact List.mem_singleton_self _
  have hkept := hiso _ _ hturn (.keeping folder first 0) _ ⟨rfl, rfl⟩
    (sound_holding hdistinct (.mk #[2]) ⟨1705320060, 0⟩ 1705320065) rfl old hold
    List.mem_cons_self
  refine notMem_runCycle_of_beginsWith hdatable hold (record?_backupObject rfl) ?_ hkept
  exact (beginsWith_nodeFolder_iff hkey).2 (.inr h)

/-- **When nodes are isolated.**  Of two nodes below one `folder`, `first` leaves the backups of
`second` alone, whatever turns are taken, just when the name of `second` does not begin with that of
`first` and an underscore. -/
theorem isolated_iff (folder : String) {first second : String} (hne : first ≠ second) :
    Isolated folder first second ↔ beginsWith (first ++ "_") second = false := by
  refine ⟨fun hiso => ?_, isolated_of_not_beginsWith hne⟩
  rw [← Bool.not_eq_true]
  exact fun h => not_isolated_of_beginsWith h hiso

/-- The names `a` and `ab` are isolated, since no underscore is between. -/
theorem isolated_a_ab : "a" ≠ "ab" ∧ Isolated "backups" "a" "ab" :=
  ⟨by decide, (isolated_iff "backups" (by decide)).2 (by decide)⟩

/-- The node `a` takes backups of the node `a_b` away. -/
theorem not_isolated_a_a_b : "a" ≠ "a_b" ∧ ¬Isolated "backups" "a" "a_b" :=
  ⟨by decide, not_isolated_of_beginsWith (by decide)⟩

end DumpKeeper
