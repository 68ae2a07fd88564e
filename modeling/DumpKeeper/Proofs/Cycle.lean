import DumpKeeper.Cycle
import DumpKeeper.Proofs.Cleanup
import DumpKeeper.Proofs.ObjectKey
import DumpKeeper.Proofs.Replication

/-!
# What a cycle does to the objects

A cycle comes in three stages.  First the dump is picked, which touches no object; then it is
stored; then old backups are deleted.  Each stage can end the cycle.

* `pickDump`, `noteUpload`, `runCycle_eq` — the stages, and a cycle put together from them.
* `Executor.HasDump` — the dump that a world holds, with its key.
* `uploaded?` — the upload that a cycle comes to, and the run that is left by it.
* `runCycle_of_uploaded?_eq_none`, `runCycle_of_uploaded?_eq_some` — what a cycle does, told by that
  upload.
* `exists_runCycle`, `leaves_of_runCycle` — when a cycle without faults answers with a key, and what
  it has done then.
-/

set_option autoImplicit false

namespace DumpKeeper

/-! ## The stages of a cycle -/

/-- The dump of `x` read, and its key made. -/
def readKeyed (x : Executor) : Act (String × ByteArray) := do
  let (content, changed) ← readDump x.config.dumpPath
  let key ← keyOf x.config changed
  say .debug .cycle ("Uploading backup to: " ++ key)
  return (key, content)

/-- The first stage of a cycle of `x`: the role is looked at and the dump is read.  The answer is
the key and the content of the dump, if there is anything to store. -/
def pickDump (x : Executor) : Act (Option (String × ByteArray)) := do
  count .attempted
  let selected ← counted Failure.isRole (Replication.shouldBackup x.config.redis)
  if !selected then
    say .info .cycle "Skipping backup based on Redis role configuration"
    return none
  if !(← dumpIsThere x.config.dumpPath) then
    say .warning .cycle ("Dump file does not exist: " ++ x.config.dumpPath.toString)
    return none
  return some (← counted Failure.isUpload (readKeyed x))

/-- What is noted down about the upload of `content` under `key`; one that failed ends the cycle. -/
def noteUpload (x : Executor) (key : String) (content : ByteArray) :
    Except Failure Unit → Act Unit
  | .ok () => do
    count .uploads
    observe .sizes (.whole content.size)
    setLastBackup (← get).world.now
    say .info .cycle
      ("Backup uploaded successfully: " ++ key ++ " (" ++ megabytes content.size ++ " MB)")
  | .error (.storage e) => do
    count .uploads
    say .error .cycle
      ("Failed to upload " ++ x.config.dumpPath.toString ++ " to " ++ x.store.kind.name ++ "://" ++
        x.store.bucket ++ "/" ++ key ++ ": " ++ e.message)
    fail (.storage e)
  | .error f => fail f

section Counted

variable {α β : Type} (counts : Failure → Bool)

/-- Two acts in a row, `t >>= f`, are counted one by one. -/
theorem counted_bind (t : Act α) (f : α → Act β) :
    counted counts (t >>= f) = counted counts t >>= fun a => counted counts (f a) := by
  refine Act.ext fun r => ?_
  rw [counted, counted, Act.on_bind, Act.on_attempt, Act.on_bind, Act.on_bind, Act.on_bind,
    Act.on_attempt]
  rcases t.on r with ⟨f | a, s⟩
  · dsimp only
    rcases counts f
    · rfl
    · rfl
  · rfl

@[simp] theorem counted_pure (a : α) : counted counts (pure a) = pure a := rfl

@[simp] theorem counted_attempt (t : Act α) : counted counts (attempt t) = attempt t := rfl

end Counted

theorem uploadDump_eq (x : Executor) :
    uploadDump x = do
      let dump ← readKeyed x
      let answer ← attempt (x.store.upload dump.1 dump.2)
      noteUpload x dump.1 dump.2 answer
      return dump.1 := by
  simp only [uploadDump, readKeyed, bind_assoc, pure_bind]
  refine bind_congr fun ⟨content, changed⟩ => ?_
  dsimp only
  refine bind_congr fun key => bind_congr fun _ => bind_congr fun answer => ?_
  rcases answer with f | _
  · cases f <;> rfl
  · simp only [noteUpload, bind_assoc]

/-- **A cycle is its stages in a row**: `pickDump`, the upload, `noteUpload` and
`enforceRetention`. -/
theorem runCycle_eq (x : Executor) :
    runCycle x = do
      match ← pickDump x with
      | none => return none
      | some (key, content) =>
        let answer ← attempt (x.store.upload key content)
        counted Failure.isUpload (noteUpload x key content answer)
        observe .durations (← elapsedTime)
        count .successful
        enforceRetention x
        return some key := by
  simp only [runCycle, pickDump, bind_assoc]
  refine bind_congr fun _ => bind_congr fun selected => ?_
  cases selected
  · rfl
  simp only [Bool.not_true, Bool.false_eq_true, if_false, bind_assoc]
  refine bind_congr fun found => ?_
  cases found
  · rfl
  simp only [Bool.not_true, Bool.false_eq_true, if_false, uploadDump_eq, counted_bind,
    counted_attempt, counted_pure, bind_assoc, pure_bind]

/-! ## What happens aside -/

theorem isAside_elapsedTime : elapsedTime.IsAside :=
  Act.IsAside.get.bind fun _ => Act.IsAside.pure _

theorem isAside_recordFailure : recordFailure.IsAside :=
  isAside_elapsedTime.bind fun _ => (Act.isAside_observe _ _).bind fun _ => Act.isAside_count _

theorem isAside_setLastBackup (now : Reading) : (setLastBackup now).IsAside :=
  Act.IsAside.modify fun _ => rfl

/-- That a failure of `t` is counted makes no difference to the world. -/
theorem counted_ends {α : Type} (counts : Failure → Bool) {t : Act α} {r : Run}
    {done : α → Run → Prop} {failed failed' : Failure → Run → Prop} (h : t.Ends r done failed)
    (hf : ∀ f s s', failed f s → s'.world = s.world → failed' f s') :
    (counted counts t).Ends r done failed' := by
  refine h.attempt (fun _ _ hd => Act.Ends.pure hd) fun f s hs => ?_
  dsimp only
  split
  · exact isAside_recordFailure.ends_bind fun _ s' hs' => Act.Ends.fail (hf f s s' hs hs')
  · exact Act.Ends.fail (hf f s s hs rfl)

/-- `noteUpload` fails just when the upload has failed. -/
theorem noteUpload_ends (x : Executor) (key : String) (content : ByteArray)
    (answer : Except Failure Unit) (r : Run) :
    (noteUpload x key content answer).Ends r (fun _ s => s.world = r.world ∧ answer = .ok ())
      fun _ s => s.world = r.world ∧ ∃ f, answer = .error f := by
  rcases answer with f | _
  · cases f with
    | storage e =>
      refine (Act.isAside_count _).ends_bind fun _ s hs => ?_
      exact (Act.isAside_say _ _ _).ends_bind fun _ t ht => Act.Ends.fail ⟨ht.trans hs, _, rfl⟩
    | _ => exact Act.Ends.fail ⟨rfl, _, rfl⟩
  · have h : (noteUpload x key content (.ok ())).IsAside :=
      (Act.isAside_count _).bind fun _ => (Act.isAside_observe _ _).bind fun _ =>
        Act.IsAside.get.bind fun _ => (isAside_setLastBackup _).bind fun _ => Act.isAside_say _ _ _
    exact (h r).mono (fun _ _ hs => ⟨hs, rfl⟩) fun _ _ hf => hf.elim

/-- With an upload that has failed with `f`, the cycle fails. -/
theorem failedUpload_ends (x : Executor) (key : String) (content : ByteArray) (f : Failure)
    (r : Run) :
    (counted Failure.isUpload (noteUpload x key content (.error f))).Ends r (fun _ _ => False)
      fun _ s => s.world = r.world := by
  refine counted_ends _ (?_ : Act.Ends _ r _ fun _ s => s.world = r.world)
    fun _ _ _ hs ht => ht.trans hs
  refine (noteUpload_ends x key content (.error f) r).mono ?_ fun _ _ hs => hs.1
  rintro _ s ⟨-, hs⟩
  cases hs

/-! ## The dump -/

/-- The path `p` leads to a file with the `content`, last `changed` then, and the system refuses
nothing that is asked about it. -/
structure FileTree.Gives (t : FileTree) (p : FilePath) (content : ByteArray) (changed : FileTime) :
    Prop where
  found : t.find p = .ok (.file content changed)
  free : ∀ c, t.refusals c p = none

namespace FileTree

variable {t : FileTree} {p : FilePath} {content : ByteArray} {changed : FileTime}

theorem ask_of_gives (h : t.Gives p content changed) (c : FileCall) :
    t.ask c p = .ok (.file content changed) :=
  ask_eq_ok_iff.2 ⟨h.free c, h.found⟩

theorem isThere_of_gives (h : t.Gives p content changed) : t.isThere p = .ok true := by
  rw [isThere, ask_of_gives h]

theorem stat_of_gives (h : t.Gives p content changed) : t.stat p = .ok (.file content changed) :=
  ask_of_gives h .stat

theorem read_of_gives (h : t.Gives p content changed) : t.read p = .ok content :=
  read_eq_ok_iff.2 ⟨h.free .read, changed, h.found⟩

/-- The system does not refuse to look at `p` if it says that `p` leads anywhere. -/
theorem look_of_isThere (h : t.isThere p = .ok true) : t.refusals .look p = none := by
  rw [isThere] at h
  split at h <;> cases h
  rename_i he
  exact (ask_eq_ok_iff.1 he).1

/-- What `stat` tells about and `read` reads is one file. -/
theorem find_of_stat_of_read {e : FileEntry} (hstat : t.stat p = .ok e)
    (hread : t.read p = .ok content) : t.find p = .ok (.file content e.changed) := by
  obtain ⟨-, hfind⟩ := ask_eq_ok_iff.1 hstat
  obtain ⟨-, changed, hfound⟩ := read_eq_ok_iff.1 hread
  obtain rfl := Except.ok.inj (hfind.symm.trans hfound)
  exact hfound

/-- **A file that `isThere`, that `stat` tells about and that `read` reads** is given. -/
theorem gives_of_read {e : FileEntry} (hthere : t.isThere p = .ok true) (hstat : t.stat p = .ok e)
    (hread : t.read p = .ok content) : t.Gives p content e.changed := by
  refine ⟨find_of_stat_of_read hstat hread, fun c => ?_⟩
  cases c with
  | look => exact look_of_isThere hthere
  | stat => exact (ask_eq_ok_iff.1 hstat).1
  | read => exact (read_eq_ok_iff.1 hread).1

end FileTree

/-- The dump that the world `w` holds for a cycle of `x`: its `content`, and the `key` that its time
makes. -/
def Executor.HasDump (x : Executor) (w : World) (key : String) (content : ByteArray) : Prop :=
  ∃ changed t, w.files.Gives x.config.dumpPath content changed ∧
    DateTime.ofUnixSeconds changed.wholeSeconds = .ok t ∧
    backupKey? x.config.storage.cleanFolder x.config.redis.nodeName t = some key

/-- What the keys of the backups of `x` begin with. -/
def Executor.nodeFolder (x : Executor) : String :=
  DumpKeeper.nodeFolder x.config.storage.cleanFolder x.config.redis.nodeName

/-- The dump with the `content` is to be stored under `key`: the role permits it, and there is that
dump. -/
def Executor.Picks (x : Executor) (r : Run) (key : String) (content : ByteArray) : Prop :=
  Replication.Permits x.config.redis r ∧ x.HasDump r.world key content

variable {x : Executor} {r : Run} {key key' : String} {content content' : ByteArray}

theorem Executor.HasDump.unique {w : World} (h : x.HasDump w key content)
    (h' : x.HasDump w key' content') : key = key' ∧ content = content' := by
  obtain ⟨changed, t, hgives, ht, hkey⟩ := h
  obtain ⟨changed', t', hgives', ht', hkey'⟩ := h'
  cases hgives.found.symm.trans hgives'.found
  obtain rfl := Except.ok.inj (ht.symm.trans ht')
  exact ⟨Option.some.inj (hkey.symm.trans hkey'), rfl⟩

/-- The dump of `x` is the same while the files are. -/
theorem Run.Quiet.hasDump_iff {s : Run} (h : r.Quiet s) :
    x.HasDump s.world key content ↔ x.HasDump r.world key content := by
  rw [Executor.HasDump, h.files, Executor.HasDump]

/-- The `key` of a dump is one of the node. -/
theorem Executor.HasDump.beginsWith {w : World} (h : x.HasDump w key content) :
    beginsWith x.nodeFolder key = true := by
  obtain ⟨_, _, -, -, hkey⟩ := h
  exact beginsWith_backupKey? hkey

theorem dumpIsThere_ends (path : FilePath) (r : Run) :
    (dumpIsThere path).Ends r
      (fun there s => s.world = r.world ∧ r.world.files.isThere path = .ok there)
      fun _ s => s.world = r.world ∧ ∃ f, r.world.files.isThere path = .error f := by
  refine Act.Ends.get_bind ?_
  rcases h : r.world.files.isThere path with f | there
  · refine (Act.isAside_say _ _ _).ends_bind fun _ s hs => ?_
    exact isAside_recordFailure.ends_bind fun _ t ht => Act.Ends.fail ⟨ht.trans hs, f, rfl⟩
  · exact Act.Ends.pure ⟨rfl, rfl⟩

theorem readDump_ends {path : FilePath} {r : Run} (hthere : r.world.files.isThere path = .ok true) :
    (readDump path).Ends r
      (fun dump s => s.world = r.world ∧ r.world.files.Gives path dump.1 dump.2)
      fun _ s => s.world = r.world ∧
        ∀ content changed, ¬r.world.files.Gives path content changed := by
  refine Act.Ends.get_bind ?_
  dsimp only
  rcases hstat : r.world.files.stat path with f | e
  · refine (Act.isAside_say _ _ _).ends_bind fun _ s hs => Act.Ends.fail ⟨hs, fun _ _ h => ?_⟩
    cases hstat.symm.trans (FileTree.stat_of_gives h)
  refine (Act.isAside_say _ _ _).ends_bind fun _ s hs => ?_
  rcases hread : r.world.files.read path with f | content
  · refine (Act.isAside_say _ _ _).ends_bind fun _ t ht =>
      Act.Ends.fail ⟨ht.trans hs, fun _ _ h => ?_⟩
    cases hread.symm.trans (FileTree.read_of_gives h)
  · exact Act.Ends.pure ⟨hs, FileTree.gives_of_read hthere hstat hread⟩

theorem keyOf_ends (c : Config) (changed : FileTime) (r : Run) :
    (keyOf c changed).Ends r
      (fun key s => s = r ∧ ∃ t, DateTime.ofUnixSeconds changed.wholeSeconds = .ok t ∧
        backupKey? c.storage.cleanFolder c.redis.nodeName t = some key)
      fun _ s => s = r ∧ ∀ t key, DateTime.ofUnixSeconds changed.wholeSeconds = .ok t →
        backupKey? c.storage.cleanFolder c.redis.nodeName t ≠ some key := by
  delta keyOf
  rcases ht : DateTime.ofUnixSeconds changed.wholeSeconds with f | t
  · exact Act.Ends.fail ⟨rfl, fun t key h => by cases h⟩
  · dsimp only
    rcases hk : backupKey? c.storage.cleanFolder c.redis.nodeName t with _ | key
    · refine Act.Ends.fail ⟨rfl, fun u key h => ?_⟩
      obtain rfl := Except.ok.inj h
      rw [hk]
      simp
    · exact Act.Ends.pure ⟨rfl, t, rfl, hk⟩

theorem readKeyed_ends {x : Executor} {r : Run}
    (hthere : r.world.files.isThere x.config.dumpPath = .ok true) :
    (readKeyed x).Ends r (fun dump s => s.world = r.world ∧ x.HasDump r.world dump.1 dump.2)
      fun _ s => s.world = r.world ∧ ∀ key content, ¬x.HasDump r.world key content := by
  refine (readDump_ends hthere).bind_of ?_ ?_
  · rintro _ s ⟨hs, hnone⟩
    exact ⟨hs, fun _ _ ⟨changed, _, hgives, _⟩ => hnone _ changed hgives⟩
  rintro ⟨content, changed⟩ s ⟨hs, hgives⟩
  refine (keyOf_ends x.config changed s).bind_of ?_ ?_
  · rintro _ t ⟨rfl, hnone⟩
    refine ⟨hs, ?_⟩
    rintro key content' ⟨changed', u, hgives', hu, hkey⟩
    cases hgives.found.symm.trans hgives'.found
    exact hnone u key hu hkey
  rintro key t ⟨rfl, u, hu, hkey⟩
  exact (Act.isAside_say _ _ _).ends_bind fun _ v hv =>
    Act.Ends.pure ⟨hv.trans hs, changed, u, hgives, hu, hkey⟩

/-- **`pickDump` touches no object**, and it comes to a dump just when there is one to be stored, by
`Executor.Picks`. -/
theorem pickDump_ends (x : Executor) (r : Run) :
    (pickDump x).Ends r
      (fun dump s => r.Quiet s ∧ ∀ key content, dump = some (key, content) ↔ x.Picks r key content)
      fun _ s => r.Quiet s ∧ (r.world.faults = [] → ∀ key content, ¬x.Picks r key content) := by
  have hthere : ∀ {key content}, x.HasDump r.world key content →
      r.world.files.isThere x.config.dumpPath = .ok true := by
    rintro _ _ ⟨_, _, hgives, -⟩
    exact FileTree.isThere_of_gives hgives
  let u : Run := { r with metrics := r.metrics.tick .attempted }
  have hu : r.Quiet u := Run.Quiet.of_world rfl
  refine Act.Ends.bind_ok (Act.on_count .attempted r) (?_ : Act.Ends _ u _ _)
  refine (counted_ends _ (Replication.shouldBackup_ends x.config.redis u) ?_).bind ?_
  · rintro _ s t ⟨hs, hf⟩ ht
    exact ⟨hu.trans (hs.trans (Run.Quiet.of_world ht)), fun hr _ _ hp => hf hr hp.1⟩
  rintro selected s ⟨hs, hsel⟩
  have hrs : r.Quiet s := hu.trans hs
  cases selected with
  | false =>
    refine (Act.isAside_say _ _ _).ends_bind fun _ t ht => Act.Ends.pure ?_
    refine ⟨hrs.trans (Run.Quiet.of_world ht), fun key content => ⟨fun h => ?_, fun hp => ?_⟩⟩
    · cases h
    · cases hsel.2 hp.1
  | true =>
    have hper : Replication.Permits x.config.redis r := hsel.1 rfl
    refine (dumpIsThere_ends _ s).bind_of ?_ ?_
    · rintro _ t ⟨ht, f, hf⟩
      refine ⟨hrs.trans (Run.Quiet.of_world ht), fun _ _ _ hp => ?_⟩
      rw [hrs.files, hthere hp.2] at hf
      cases hf
    rintro found t ⟨ht, hfound⟩
    rw [hrs.files] at hfound
    have hrt : r.Quiet t := hrs.trans (Run.Quiet.of_world ht)
    cases found with
    | false =>
      refine (Act.isAside_say _ _ _).ends_bind fun _ v hv => Act.Ends.pure ?_
      refine ⟨hrt.trans (Run.Quiet.of_world hv), fun key content => ⟨fun h => ?_, fun hp => ?_⟩⟩
      · cases h
      · rw [hthere hp.2] at hfound
        cases hfound
    | true =>
      have hthere' : t.world.files.isThere x.config.dumpPath = .ok true := by
        rw [ht, hrs.files, hfound]
      have hread : (counted Failure.isUpload (readKeyed x)).Ends t
          (fun dump v => v.world = t.world ∧ x.HasDump t.world dump.1 dump.2)
          fun _ v => v.world = t.world ∧ ∀ key content, ¬x.HasDump t.world key content :=
        counted_ends _ (readKeyed_ends hthere') fun _ v w hv hw => ⟨hw.trans hv.1, hv.2⟩
      refine hread.bind_of ?_ ?_
      · rintro _ v ⟨hv, hnone⟩
        refine ⟨hrt.trans (Run.Quiet.of_world hv), fun _ key content hp => ?_⟩
        exact hnone key content (hrt.hasDump_iff.2 hp.2)
      rintro ⟨key, content⟩ v ⟨hv, hdump⟩
      rw [hrt.hasDump_iff] at hdump
      refine Act.Ends.pure ⟨hrt.trans (Run.Quiet.of_world hv), fun key' content' => ?_⟩
      refine ⟨fun h => ?_, fun hp => ?_⟩
      · cases h
        exact ⟨hper, hdump⟩
      · obtain ⟨rfl, rfl⟩ := hdump.unique hp.2
        rfl

/-! ## The upload -/

/-- The upload that a cycle of `x` in `r` comes to, if it comes so far and the upload does not fail:
the key and the content of the dump, and the run that the upload leaves. -/
def uploaded? (x : Executor) (r : Run) : Option (String × ByteArray × Run) :=
  match (pickDump x).on r with
  | (.ok (some (key, content)), s) =>
    match (x.store.upload key content).on s with
    | (.ok (), t) => some (key, content, t)
    | (.error _, _) => none
  | _ => none

theorem uploaded?_eq_some {t : Run} (hup : uploaded? x r = some (key, content, t)) :
    ∃ s, (pickDump x).on r = (.ok (some (key, content)), s) ∧
      (x.store.upload key content).on s = (.ok (), t) := by
  rw [uploaded?] at hup
  split at hup
  · rename_i hpick
    split at hup
    · rename_i hstore
      cases hup
      exact ⟨_, hpick, hstore⟩
    · cases hup
  · cases hup

/-- What is `uploaded?` is the dump, under the key that its time makes. -/
theorem picks_of_uploaded? {t : Run} (hup : uploaded? x r = some (key, content, t)) :
    x.Picks r key content := by
  obtain ⟨s, hpick, -⟩ := uploaded?_eq_some hup
  exact (((pickDump_ends x r).of_ok hpick).2 key content).1 rfl

/-- **What is `uploaded?` is the dump**, under the key that its time makes, and whole. -/
theorem stores_of_uploaded? {t : Run} (hc : 0 < r.world.limits.chunk)
    (hup : uploaded? x r = some (key, content, t)) :
    x.Picks r key content ∧ r.Stores key content t := by
  refine ⟨picks_of_uploaded? hup, ?_⟩
  obtain ⟨s, hpick, hstore⟩ := uploaded?_eq_some hup
  have hs := ((pickDump_ends x r).of_ok hpick).1
  have hup := x.store.upload_ends key content s (by rw [hs.limits]; exact hc)
  exact hs.stores (hup.of_ok hstore)

/-- Where no fault is planned, a dump that is to be stored is `uploaded?`. -/
theorem exists_uploaded? (hr : r.world.faults = []) (hc : 0 < r.world.limits.chunk)
    {now : DateTime} (hn : DateTime.ofReading r.world.now = .ok now) (hp : x.Picks r key content) :
    ∃ t, uploaded? x r = some (key, content, t) := by
  rcases hpick : (pickDump x).on r with ⟨f | dump, s⟩
  · exact absurd hp (((pickDump_ends x r).of_error hpick).2 hr key content)
  obtain ⟨hs, hdump⟩ := (pickDump_ends x r).of_ok hpick
  obtain rfl := (hdump key content).2 hp
  have hup := x.store.upload_ends key content s (by rw [hs.limits]; exact hc)
  rcases hstore : (x.store.upload key content).on s with ⟨f | _, t⟩
  · obtain ⟨e, he⟩ := (hup.of_error hstore).2 (hs.calm hr)
    rw [hs.now, hn] at he
    cases he
  · exact ⟨t, by rw [uploaded?, hpick]; dsimp only; rw [hstore]⟩

/-! ## Cycles -/

/-- What the cleanup that `x` makes in `r` plans to keep and to delete. -/
abbrev Executor.Plans (x : Executor) (r : Run) (plan : Partition) : Prop :=
  x.store.Plans x.config.retention x.nodeFolder r plan

/-- Between `r` and `s` nothing was removed but what was planned in `r`. -/
def Executor.Prunes (x : Executor) (r s : Run) : Prop :=
  r.Quiet s ∨ ∃ plan, x.Plans r plan ∧ r.Removes (plan.toDelete.map (·.key)) s

/-- What `x` prunes in a run it prunes in every run of the same world. -/
theorem Executor.Prunes.of_world {s t : Run} (h : x.Prunes s t) (hw : s.world = r.world) :
    x.Prunes r t := by
  have hq : r.Quiet s := Run.Quiet.of_world hw
  rcases h with h | ⟨plan, hp, h⟩
  · exact .inl (hq.trans h)
  · exact .inr ⟨plan, hp.of_world hw.symm, hq.removes h⟩

theorem enforceRetention_ends (x : Executor) (r : Run) :
    (enforceRetention x).Ends r
      (fun _ s => x.Prunes r s ∧ (r.world.faults = [] →
        ∃ plan, x.Plans r plan ∧ r.Removes (plan.toDelete.map (·.key)) s))
      fun _ s => x.Prunes r s ∧ (r.world.faults = [] → ∀ plan, ¬x.Plans r plan) := by
  refine (cleanup_ends x.store x.config.retention x.nodeFolder r).attempt ?_ ?_
  · rintro _ s ⟨plan, hp, hs, -⟩
    exact Act.Ends.pure ⟨.inr ⟨plan, hp, hs⟩, fun _ => ⟨plan, hp, hs⟩⟩
  · rintro f s ⟨hs, hf⟩
    cases f with
    | storage e =>
      refine (Act.isAside_say _ _ _ s).mono (fun _ t ht => ?_) fun _ _ h => h.elim
      have hq : s.Quiet t := Run.Quiet.of_world ht
      refine ⟨?_, fun hr => absurd rfl ((hf hr).2 e)⟩
      rcases hs with hs | ⟨plan, hp, hs⟩
      · exact .inl (hs.trans hq)
      · exact .inr ⟨plan, hp, hs.quiet hq⟩
    | _ => exact Act.Ends.fail ⟨hs, fun hr => (hf hr).1⟩

/-- **A cycle that comes to no upload leaves the objects alone**, and it does not answer with a key:
`runCycle` where `uploaded?` gives nothing. -/
theorem runCycle_of_uploaded?_eq_none (hc : 0 < r.world.limits.chunk) (hup : uploaded? x r = none) :
    (runCycle x).Ends r (fun answer s => answer = none ∧ r.Quiet s) fun _ s => r.Quiet s := by
  rw [runCycle_eq]
  rcases hpick : (pickDump x).on r with ⟨f | dump, s⟩
  · exact Act.ends_of_error (Act.on_bind_error hpick) ((pickDump_ends x r).of_error hpick).1
  obtain ⟨hs, hdump⟩ := (pickDump_ends x r).of_ok hpick
  refine Act.Ends.bind_ok hpick ?_
  rcases dump with _ | ⟨key, content⟩
  · exact Act.Ends.pure ⟨rfl, hs⟩
  have hstores := x.store.upload_ends key content s (by rw [hs.limits]; exact hc)
  rw [uploaded?, hpick] at hup
  dsimp only at hup ⊢
  rcases hstore : (x.store.upload key content).on s with ⟨f | _, t⟩
  · have hrt : r.Quiet t := hs.trans (hstores.of_error hstore).1
    refine Act.Ends.bind_ok (a := .error f) (s := t) (by rw [Act.on_attempt, hstore]) ?_
    exact (failedUpload_ends x key content f t).bind_of
      (fun _ u hu => hrt.trans (Run.Quiet.of_world hu)) fun _ _ h => h.elim
  · rw [hstore] at hup
    cases hup

/-- **A cycle that comes to an upload goes on with a cleanup, and answers with the `key`.**  Where
no fault is left, it fails only if the cleanup has no plan. -/
theorem runCycle_of_uploaded?_eq_some {t : Run} (hup : uploaded? x r = some (key, content, t)) :
    (runCycle x).Ends r
      (fun answer s => answer = some key ∧ x.Prunes t s ∧ (t.world.faults = [] →
        ∃ plan, x.Plans t plan ∧ t.Removes (plan.toDelete.map (·.key)) s))
      fun _ s => x.Prunes t s ∧ (t.world.faults = [] → ∀ plan, ¬x.Plans t plan) := by
  obtain ⟨s, hpick, hstore⟩ := uploaded?_eq_some hup
  rw [runCycle_eq]
  refine Act.Ends.bind_ok hpick ?_
  dsimp only
  refine Act.Ends.bind_ok (a := .ok ()) (s := t) (by rw [Act.on_attempt, hstore]) ?_
  have hnote : (counted Failure.isUpload (noteUpload x key content (.ok ()))).Ends t
      (fun _ u => u.world = t.world) fun _ _ => False := by
    refine counted_ends _ (?_ : Act.Ends _ t _ fun _ _ => False) fun _ _ _ hf _ => hf
    refine (noteUpload_ends x key content (.ok ()) t).mono (fun _ _ hu => hu.1) ?_
    rintro _ u ⟨-, f, hf⟩
    cases hf
  refine hnote.bind_of (fun _ _ hf => hf.elim) fun _ u hu => ?_
  refine isAside_elapsedTime.ends_bind fun _ u₁ hu₁ => ?_
  refine (Act.isAside_observe _ _).ends_bind fun _ u₂ hu₂ => ?_
  refine (Act.isAside_count _).ends_bind fun _ u₃ hu₃ => ?_
  have hw : u₃.world = t.world := hu₃.trans (hu₂.trans (hu₁.trans hu))
  refine (enforceRetention_ends x u₃).bind_of ?_ ?_
  · rintro _ s' ⟨hs', hf⟩
    exact ⟨hs'.of_world hw, fun ht plan hp => hf (hw ▸ ht) plan (hp.of_world hw)⟩
  · rintro _ s' ⟨hs', hplan⟩
    refine Act.Ends.pure ⟨rfl, hs'.of_world hw, fun ht => ?_⟩
    obtain ⟨plan, hp, hr⟩ := hplan (hw ▸ ht)
    exact ⟨plan, hp.of_world hw.symm, (Run.Quiet.of_world hw).removes hr⟩

/-- **A cycle that answers with a `key` has uploaded the dump under it**, by `uploaded?`. -/
theorem exists_uploaded?_of_runCycle {s : Run} (hon : (runCycle x).on r = (.ok (some key), s)) :
    ∃ content t, uploaded? x r = some (key, content, t) := by
  rcases hup : uploaded? x r with _ | ⟨key', content, t⟩
  · -- no stage before the upload answers with a key
    have hnone : (runCycle x).Ends r (fun answer _ => answer = none) fun _ _ => True := by
      rw [runCycle_eq]
      rcases hpick : (pickDump x).on r with ⟨f | dump, s⟩
      · exact Act.ends_of_error (Act.on_bind_error hpick) trivial
      refine Act.Ends.bind_ok hpick ?_
      rcases dump with _ | ⟨key', content⟩
      · exact Act.Ends.pure rfl
      rw [uploaded?, hpick] at hup
      dsimp only at hup ⊢
      rcases hstore : (x.store.upload key' content).on s with ⟨f | _, t⟩
      · refine Act.Ends.bind_ok (a := .error f) (s := t) (by rw [Act.on_attempt, hstore]) ?_
        exact (failedUpload_ends x key' content f t).bind_of (fun _ _ _ => trivial)
          fun _ _ h => h.elim
      · rw [hstore] at hup
        cases hup
    cases hnone.of_ok hon
  · obtain ⟨hkey, -⟩ := (runCycle_of_uploaded?_eq_some hup).of_ok hon
    obtain rfl := Option.some.inj hkey
    exact ⟨content, t, rfl⟩

/-- However it ends, a cycle that comes to no upload changes nothing, by `Run.Quiet`. -/
theorem quiet_runCycle (hc : 0 < r.world.limits.chunk) (hup : uploaded? x r = none) :
    r.Quiet ((runCycle x).on r).2 := by
  have hend := runCycle_of_uploaded?_eq_none hc hup
  rcases hon : (runCycle x).on r with ⟨_ | _, s⟩
  · exact hend.of_error hon
  · exact (hend.of_ok hon).2

/-- However it ends, a cycle that comes to an upload removes nothing but what is planned then, by
`Executor.Prunes`. -/
theorem prunes_runCycle {t : Run} (hup : uploaded? x r = some (key, content, t)) :
    x.Prunes t ((runCycle x).on r).2 := by
  have hend := runCycle_of_uploaded?_eq_some hup
  rcases hon : (runCycle x).on r with ⟨_ | _, s⟩
  · exact (hend.of_error hon).1
  · exact (hend.of_ok hon).2.1

/-! ## Cycles without faults -/

/-- The objects `os` without those that `x` deletes when `records` are what it was told of them. -/
def Executor.pruned (x : Executor) (os : Objects) (records : List Record)
    (cutoff : Option DateTime) : Objects :=
  os.without ((partitionAt records x.config.retention.keepLast cutoff).toDelete.map (·.key))

theorem below_pruned (os : Objects) (records : List Record) (cutoff : Option DateTime) :
    (x.pruned os records cutoff).below x.nodeFolder =
      x.pruned (os.below x.nodeFolder) records cutoff :=
  Objects.below_without _ _ _

/-- Nothing is `pruned` but objects of the node. -/
theorem outside_pruned {w : World} {records : List Record}
    (hrec : recordsOf (w.listing x.nodeFolder) = .ok records) (cutoff : Option DateTime) :
    (x.pruned w.objects records cutoff).outside x.nodeFolder = w.objects.outside x.nodeFolder := by
  refine Objects.outside_without fun key hkey => ?_
  obtain ⟨a, ha, rfl⟩ := List.mem_map.1 hkey
  obtain ⟨o, ho, hk, -⟩ := mem_records hrec (mem_of_mem_toDelete ha)
  rw [hk]
  exact (World.mem_listing.1 ho).2

/-- **What a cycle without faults has done when it answers with a `key`**: the dump is stored, and
all that need not be kept is deleted. -/
theorem leaves_of_runCycle {s : Run} (hr : r.world.faults = []) (hc : 0 < r.world.limits.chunk)
    (hon : (runCycle x).on r = (.ok (some key), s)) :
    ∃ content now records cutoff, x.Picks r key content ∧
      DateTime.ofReading r.world.now = .ok now ∧
      recordsOf ((r.world.store key content now).listing x.nodeFolder) = .ok records ∧
      cutoffOf x.config.retention.keepDuration now = .ok cutoff ∧
      r.Leaves s (x.pruned (Objects.put (backupObject key content now) r.world.objects)
        records cutoff) := by
  rcases hup : uploaded? x r with _ | ⟨key', content, t⟩
  · cases ((runCycle_of_uploaded?_eq_none hc hup).of_ok hon).1
  obtain ⟨hpick, now, hn, ht⟩ := stores_of_uploaded? hc hup
  obtain ⟨hkey, -, hplan⟩ := (runCycle_of_uploaded?_eq_some hup).of_ok hon
  obtain rfl := Option.some.inj hkey
  obtain ⟨plan, hp, gone, -, hleaves, hgone⟩ := hplan (ht.calm hr)
  obtain ⟨records, now', cutoff, hrec, hn', hcut, rfl⟩ := hp.records
  rw [ht.now, hn] at hn'
  obtain rfl := Except.ok.inj hn'
  rw [ht.listing] at hrec
  rw [hgone (ht.calm hr), ht.objects] at hleaves
  exact ⟨content, now, records, cutoff, hpick, hn, hrec, hcut, ht.trans hleaves⟩

/-- **When a cycle without faults answers with a `key`**: there is a dump to be stored, and the
times of the objects, of the clock and of the cutoff can all be told. -/
theorem exists_runCycle {content : ByteArray} {now : DateTime} {records : List Record}
    {cutoff : Option DateTime} (hr : r.world.faults = []) (hc : 0 < r.world.limits.chunk)
    (hpick : x.Picks r key content) (hn : DateTime.ofReading r.world.now = .ok now)
    (hrec : recordsOf ((r.world.store key content now).listing x.nodeFolder) = .ok records)
    (hcut : cutoffOf x.config.retention.keepDuration now = .ok cutoff) :
    ∃ s, (runCycle x).on r = (.ok (some key), s) ∧
      r.Leaves s (x.pruned (Objects.put (backupObject key content now) r.world.objects)
        records cutoff) := by
  obtain ⟨t, hup⟩ := exists_uploaded? hr hc hn hpick
  have hend := runCycle_of_uploaded?_eq_some hup
  obtain ⟨-, now', hn', ht⟩ := stores_of_uploaded? hc hup
  rw [hn] at hn'
  obtain rfl := Except.ok.inj hn'
  have hplan : x.Plans t (partitionAt records x.config.retention.keepLast cutoff) := by
    have hnow : DateTime.ofReading t.world.now = .ok now := by rw [ht.now, hn]
    refine Store.plans_of_calm (ht.calm hr) ?_ hnow hcut
    rw [ht.listing]
    exact hrec
  rcases hon : (runCycle x).on r with ⟨f | answer, s⟩
  · exact absurd hplan ((hend.of_error hon).2 (ht.calm hr) _)
  · obtain ⟨rfl, -, hpruned⟩ := hend.of_ok hon
    obtain ⟨plan, hp, gone, -, hleaves, hgone⟩ := hpruned (ht.calm hr)
    rw [hgone (ht.calm hr), hp.unique hplan, ht.objects] at hleaves
    exact ⟨s, rfl, ht.trans hleaves⟩

/-! ## A dump at its usual place -/

/-- A tree with one dump, at the place where `Config` looks for it by default. -/
def FileTree.holding (content : ByteArray) (changed : FileTime) : FileTree :=
  .ofEntries [(["data"], .folder), (["data", "dump.rdb"], .file content changed)]

theorem find_holding {c : Config} (hpath : c.redis.dataPath = ⟨"/", ["data"]⟩)
    (hname : c.backup.dumpName = "dump.rdb") (content : ByteArray) (changed : FileTime) :
    (FileTree.holding content changed).find c.dumpPath = .ok (.file content changed) := by
  rw [Config.dumpPath, hpath, hname]
  rfl

theorem gives_holding {c : Config} (hpath : c.redis.dataPath = ⟨"/", ["data"]⟩)
    (hname : c.backup.dumpName = "dump.rdb") (content : ByteArray) (changed : FileTime) :
    (FileTree.holding content changed).Gives c.dumpPath content changed :=
  ⟨find_holding hpath hname content changed, fun _ => rfl⟩

/-- A run with one dump, the `objects` and a clock that says `now`, and no faults. -/
def Run.holding (content : ByteArray) (changed : FileTime) (now : Int) (objects : Objects) : Run :=
  { world := { objects, now := .whole now, files := .holding content changed } }

/-- An executor of `node` that keeps `keepLast` backups in `folder`, with all else as it is by
default. -/
def Executor.keeping (folder node : String) (keepLast : Int) : Executor :=
  ⟨{ redis := { nodeName := node }, storage := { folder }, retention := { keepLast } },
    ⟨.s3, defaultFolder⟩⟩

theorem picks_keeping (folder node : String) (keepLast : Int) (content : ByteArray)
    (changed : FileTime) (now : Int) (objects : Objects) {t : DateTime} {key : String}
    (ht : DateTime.ofUnixSeconds changed.wholeSeconds = .ok t)
    (hkey : backupKey? (dropEndSlashes folder) node t = some key) :
    (Executor.keeping folder node keepLast).Picks (Run.holding content changed now objects) key
      content :=
  ⟨rfl, changed, t, gives_holding rfl rfl content changed, ht, hkey⟩

/-- **A cycle of `Executor.keeping` with the dump of `Run.holding`** answers with a key, if the
objects have times that can be listed. -/
theorem exists_runCycle_keeping (folder node : String) (keepLast : Int) (content : ByteArray)
    {changed : FileTime} {reading : Int} {os : Objects} {t now : DateTime} {key : String}
    (hos : os.Datable) (ht : DateTime.ofUnixSeconds changed.wholeSeconds = .ok t)
    (hkey : backupKey? (dropEndSlashes folder) node t = some key)
    (hn : DateTime.ofReading (.whole reading) = .ok now) :
    ∃ s records,
      (runCycle (.keeping folder node keepLast)).on (.holding content changed reading os) =
        (.ok (some key), s) ∧
      recordsOf (((Run.holding content changed reading os).world.store key content now).listing
        (Executor.keeping folder node keepLast).nodeFolder) = .ok records ∧
      (Run.holding content changed reading os).Leaves s
        ((Executor.keeping folder node keepLast).pruned
          (Objects.put (backupObject key content now) os) records none) := by
  let r : Run := .holding content changed reading os
  have hpick := picks_keeping folder node keepLast content changed reading os ht hkey
  have hrec := recordsOf_of_datable
    ((hos.put hn key content).below (Executor.keeping folder node keepLast).nodeFolder)
  have hchunk : 0 < r.world.limits.chunk := show (0 : Int) < 10485760 by decide
  have hcut : cutoffOf (Executor.keeping folder node keepLast).config.retention.keepDuration now =
      .ok none := rfl
  obtain ⟨s, hs, hleaves⟩ := exists_runCycle (r := r) rfl hchunk hpick hn hrec hcut
  exact ⟨s, _, hs, hrec, hleaves⟩

end DumpKeeper
