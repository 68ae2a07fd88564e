import DumpKeeper.Proofs.Cycle
import DumpKeeper.Proofs.Faults
import DumpKeeper.Proofs.Parallel

/-!
# One kind of store is as good as the other

Where no call fails, nobody can tell an S3 store from a GCS store by what it does: each operation
answers the same and leaves the same objects, and so do backup cycles, one after the other, with
whatever else happens to the world between them.

* `Run.Alike` — runs that differ only in what calls leave behind, and in their journals.
* `Act.Mirrors t u` says that `t` and `u` answer the same in runs that are alike, and leave runs
  that are alike.  It is kept by all ways of putting acts together.
* `Act.Does` — what an act does to a world where no call fails; acts that do the same mirror each
  other (`Act.Does.mirrors`).
* `Store.does_upload`, `Store.does_list`, `Store.does_delete` — what the operations of a store do,
  of whichever kind it is.
* `Executor.cycles` — cycles with changes of the world between them.
* `s3_mirrors_gcs` — the two kinds of stores, operation by operation and in cycles.
-/

set_option autoImplicit false

namespace DumpKeeper

/-! ## Runs that are alike -/

/-- `r` and `s` have the same `scene`, no faults planned, and have counted the same.  What calls
have left behind may differ, and so may what was noted down. -/
structure Run.Alike (r s : Run) : Prop where
  /-- The same is to be seen. -/
  scene : r.world.scene = s.world.scene
  /-- No fault is planned in the first run. -/
  calm : r.world.faults = []
  /-- Nor in the second one. -/
  calm' : s.world.faults = []
  /-- The same was counted. -/
  metrics : r.metrics = s.metrics
  /-- The node can be asked for its role in both, or in none. -/
  connected : r.connected = s.connected
  /-- Parts have a size. -/
  chunk : 0 < r.world.limits.chunk

namespace Run.Alike

variable {r s : Run}

theorem now (h : r.Alike s) : r.world.now = s.world.now := (congrArg World.now h.scene :)

theorem elapsed (h : r.Alike s) : r.world.elapsed = s.world.elapsed :=
  (congrArg World.elapsed h.scene :)

theorem files (h : r.Alike s) : r.world.files = s.world.files := (congrArg World.files h.scene :)

theorem checkAddress (h : r.Alike s) : r.world.checkAddress = s.world.checkAddress :=
  (congrArg World.checkAddress h.scene :)

theorem info (h : r.Alike s) : r.world.info = s.world.info := (congrArg World.info h.scene :)

theorem objects (h : r.Alike s) : r.world.objects = s.world.objects :=
  (congrArg World.objects h.scene :)

theorem chunk' (h : r.Alike s) : 0 < s.world.limits.chunk := by
  have hl : r.world.limits = s.world.limits := (congrArg World.limits h.scene :)
  exact hl ▸ h.chunk

end Run.Alike

/-! ## Acts that mirror each other -/

namespace Act

variable {α β : Type}

/-- In runs that are `Alike`, the acts `t` and `u` answer the same, and leave runs that are so
again. -/
def Mirrors (t u : Act α) : Prop :=
  ∀ r s : Run, r.Alike s → (t.on r).1 = (u.on s).1 ∧ (t.on r).2.Alike (u.on s).2

/-- That `t` and `u` mirror each other is to say that they go side by side, by `Parallel`. -/
theorem mirrors_iff {t u : Act α} : t.Mirrors u ↔ Parallel Run.Alike Eq t u := by
  constructor
  · intro h r s hrs
    exact ⟨.of_eq (h r s hrs).1, (h r s hrs).2⟩
  · intro h r s hrs
    exact ⟨(h r s hrs).1.eq, (h r s hrs).2⟩

theorem Mirrors.pure (a : α) : Act.Mirrors (pure a) (pure a) := fun _ _ h => ⟨rfl, h⟩

theorem Mirrors.fail (f : Failure) : Act.Mirrors (fail f : Act α) (fail f) := fun _ _ h => ⟨rfl, h⟩

/-- Acts in a row mirror each other one by one: `t` and `u`, and then `f a` and `g a`. -/
theorem Mirrors.bind {t u : Act α} {f g : α → Act β} (h : t.Mirrors u)
    (hf : ∀ a, (f a).Mirrors (g a)) : Act.Mirrors (t >>= f) (u >>= g) :=
  mirrors_iff.2 ((mirrors_iff.1 h).bind_eq fun a => mirrors_iff.1 (hf a))

theorem Mirrors.attempt {t u : Act α} (h : t.Mirrors u) :
    Act.Mirrors (attempt t) (attempt u) :=
  mirrors_iff.2 ((mirrors_iff.1 h).attempt.mono fun _ _ hxy => hxy.eq)

theorem Mirrors.relaying {t u : Act α} {counts : ServiceFault → Bool}
    {report : ServiceFault → Failure} (h : t.Mirrors u) :
    Act.Mirrors (t.relaying counts report) (u.relaying counts report) :=
  mirrors_iff.2 (mirrors_iff.1 h).relaying

/-- What is done with runs that are `Alike`. -/
theorem Mirrors.get_bind {f g : Run → Act β} (h : ∀ r s, r.Alike s → (f r).Mirrors (g s)) :
    Act.Mirrors (get >>= f) (get >>= g) := fun r s hrs => h r s hrs r s hrs

theorem Mirrors.ite {c : Prop} [Decidable c] {t t' u u' : Act α} (ht : t.Mirrors t')
    (hu : u.Mirrors u') : Act.Mirrors (if c then t else u) (if c then t' else u') :=
  mirrors_iff.2 (.ite (mirrors_iff.1 ht) (mirrors_iff.1 hu))

theorem mirrors_liftM (e : Except Failure α) : Act.Mirrors (liftM e) (liftM e) := fun r s h => by
  rw [on_liftM, on_liftM]
  exact ⟨rfl, h⟩

/-- What `say` notes down need not be the same. -/
theorem mirrors_say (level level' : Level) (source source' : Source) (message message' : String) :
    (say level source message).Mirrors (say level' source' message') := fun r s h => by
  refine ⟨rfl, ?_⟩
  show Run.Alike (if _ then _ else r) (if _ then _ else s)
  split
  · split
    · exact ⟨h.scene, h.calm, h.calm', h.metrics, h.connected, h.chunk⟩
    · exact ⟨h.scene, h.calm, h.calm', h.metrics, h.connected, h.chunk⟩
  · split
    · exact ⟨h.scene, h.calm, h.calm', h.metrics, h.connected, h.chunk⟩
    · exact h

/-- The same change `g` of what was counted. -/
theorem mirrors_modify_metrics (g : Metrics → Metrics) :
    Act.Mirrors (modify fun r => { r with metrics := g r.metrics })
      (modify fun r => { r with metrics := g r.metrics }) := fun _ _ h =>
  ⟨rfl, h.scene, h.calm, h.calm', congrArg g h.metrics, h.connected, h.chunk⟩

theorem mirrors_count (c : Counter) : (count c).Mirrors (count c) :=
  mirrors_modify_metrics fun m => m.tick c

theorem mirrors_observe (d : Distribution) (a : Amount) : (observe d a).Mirrors (observe d a) :=
  mirrors_modify_metrics fun m => m.observe d a

/-- The calls `c` and `c'` are all the same if they do not fail. -/
theorem mirrors_request (c c' : Call) : (request c).Mirrors (request c') := fun r s h => by
  rw [on_request, on_request, World.ask_of_no_faults _ _ h.calm, World.ask_of_no_faults _ _ h.calm']
  exact ⟨rfl, h.scene, h.calm, h.calm', h.metrics, h.connected, h.chunk⟩

theorem mirrors_currentTime : currentTime.Mirrors currentTime := fun r s h => by
  rw [on_currentTime, on_currentTime, h.now]
  exact ⟨rfl, h⟩

/-! ### Acts with a known effect -/

/-- Where no call fails, the act changes nothing but the world and the journal, and about the scene
nothing but the objects.  Its answer and these objects are told by `does`, from the scene alone. -/
def Does (t : Act α) (does : World → Except Failure α × Objects) : Prop :=
  ∀ r : Run, r.world.faults = [] → 0 < r.world.limits.chunk →
    (t.on r).1 = (does r.world.scene).1 ∧ r.Outward (t.on r).2 ∧
      r.Leaves (t.on r).2 (does r.world.scene).2

/-- **Acts that do the same mirror each other**: `does` says for both what comes of a world. -/
theorem Does.mirrors {t u : Act α} {does : World → Except Failure α × Objects} (ht : t.Does does)
    (hu : u.Does does) : t.Mirrors u := by
  intro r s h
  obtain ⟨hta, hto, htl⟩ := ht r h.calm h.chunk
  obtain ⟨hua, huo, hul⟩ := hu s h.calm' h.chunk'
  refine ⟨by rw [hta, hua, h.scene], ?_, htl.calm h.calm, hul.calm h.calm', ?_, ?_, ?_⟩
  · rw [htl.scene, hul.scene, h.scene]
  · rw [hto.metrics, huo.metrics, h.metrics]
  · rw [hto.connected, huo.connected, h.connected]
  · rw [htl.limits]
    exact h.chunk

end Act

/-! ## The operations of a store -/

namespace Store

variable (s : Store)

/-- What an upload of `content` under `key` comes to in the world `w`: the object is stored at the
time of the clock. -/
def uploading (key : String) (content : ByteArray) (w : World) : Except Failure Unit × Objects :=
  match DateTime.ofReading w.now with
  | .ok now => (.ok (), Objects.put (backupObject key content now) w.objects)
  | .error e => (.error (.time e), w.objects)

/-- What a listing does: it gives the records of the objects below a text, those that have a time,
in the order of the world `w`. -/
def listing (beginning : String) (w : World) : Except Failure (List Record) × Objects :=
  (recordsOf (w.listing beginning), w.objects)

/-- What a deletion of `key` comes to in the world `w`: the object is gone, whether it was there or
not. -/
def deleting (key : String) (w : World) : Except Failure Unit × Objects :=
  (.ok (), w.objects.erase key)

theorem does_upload (key : String) (content : ByteArray) :
    (s.upload key content).Does (uploading key content) := by
  intro r hr hc
  have hends := (s.upload_ends key content r hc).and
    (s.weathers_upload (World.expects_of_calm hr) (by omega) key content r (World.Follows.refl _))
  rcases hon : (s.upload key content).on r with ⟨f | _, t⟩
  · obtain ⟨⟨hq, -⟩, ⟨hout, -⟩, hbars | ⟨e, he, rfl⟩⟩ := hends.of_error hon
    · exact absurd hr hbars.1
    have hdoes : uploading key content r.world.scene = (.error (.time e), r.world.objects) := by
      rw [uploading]
      exact he ▸ rfl
    rw [hdoes]
    exact ⟨rfl, hout, hq⟩
  · obtain ⟨⟨now, hn, hl⟩, hout, -⟩ := hends.of_ok hon
    have hdoes : uploading key content r.world.scene =
        (.ok (), Objects.put (backupObject key content now) r.world.objects) := by
      rw [uploading]
      exact hn ▸ rfl
    rw [hdoes]
    exact ⟨rfl, hout, hl⟩

theorem does_list (beginning : String) : (s.list beginning).Does (listing beginning) := by
  intro r hr _
  have hends := (s.list_ends beginning r).and
    (s.weathers_list (World.expects_of_calm hr) beginning r (World.Follows.refl _))
  rcases hon : (s.list beginning).on r with ⟨f | records, t⟩
  · obtain ⟨⟨hq, hf⟩, ⟨hout, -⟩, -⟩ := hends.of_error hon
    exact ⟨(hf hr).symm, hout, hq⟩
  · obtain ⟨⟨hrec, hq⟩, hout, -⟩ := hends.of_ok hon
    exact ⟨hrec.symm, hout, hq⟩

theorem does_delete (key : String) : (s.delete key).Does (deleting key) := by
  intro r hr _
  have hends := (s.delete_ends key r).and
    (s.weathers_delete (World.expects_of_calm hr) key r (World.Follows.refl _))
  rcases hon : (s.delete key).on r with ⟨f | _, t⟩
  · exact absurd hr (hends.of_error hon).1.2
  · obtain ⟨⟨gone, -, hl, hgone⟩, hout, -⟩ := hends.of_ok hon
    rw [hgone hr, ← Objects.erase_eq_without] at hl
    exact ⟨rfl, hout, hl⟩

end Store

/-! ## Cycles -/

/-- `x` and `y` have the same task, each with a store of its own. -/
structure Executor.SameTask (x y : Executor) : Prop where
  /-- They back up the same node. -/
  redis : x.config.redis = y.config.redis
  /-- The dump is the same file. -/
  dumpPath : x.config.dumpPath = y.config.dumpPath
  /-- The backups go to the same folder. -/
  folder : x.config.storage.cleanFolder = y.config.storage.cleanFolder
  /-- As many of them are kept. -/
  retention : x.config.retention = y.config.retention

section Cycles

open Act (Mirrors)

theorem mirrors_openClient (url : String) :
    Mirrors (Replication.openClient url) (Replication.openClient url) := by
  refine Mirrors.get_bind fun r s h => ?_
  rw [h.checkAddress]
  split
  · exact Act.mirrors_request _ _
  · exact Mirrors.fail _

theorem mirrors_connect (url : String) :
    Mirrors (Replication.connect url) (Replication.connect url) := by
  rw [Replication.connect_eq_relaying]
  refine Mirrors.get_bind fun r s h => ?_
  rw [h.connected]
  refine Mirrors.ite (Mirrors.pure ()) ((mirrors_openClient url).relaying.bind fun _ => ?_)
  exact fun _ _ h => ⟨rfl, h.scene, h.calm, h.calm', h.metrics, rfl, h.chunk⟩

theorem mirrors_ask (c : Call) (report : ServiceFault → RoleError) :
    Mirrors (Replication.ask c report) (Replication.ask c report) := by
  rw [Replication.ask_eq_relaying]
  exact (Act.mirrors_request c c).relaying

theorem mirrors_shouldBackup (settings : RedisSettings) :
    Mirrors (Replication.shouldBackup settings) (Replication.shouldBackup settings) := by
  have hrole : Mirrors (Replication.askRole settings.connection)
      (Replication.askRole settings.connection) := by
    refine (mirrors_connect _).bind fun _ => (mirrors_ask _ _).bind fun _ => ?_
    refine Mirrors.get_bind fun r s h => ?_
    rw [h.info]
    exact Mirrors.pure _
  have hsay : ∀ role, Mirrors (Replication.sayRole settings role)
      (Replication.sayRole settings role) := by
    intro role
    cases role <;> exact Act.mirrors_say _ _ _ _ _ _
  rw [Replication.shouldBackup]
  exact Mirrors.ite (hrole.bind fun role => (hsay role).bind fun _ => Mirrors.pure _)
    (Mirrors.pure _)

theorem mirrors_elapsedTime : Mirrors elapsedTime elapsedTime :=
  Mirrors.get_bind fun r s h => by
    rw [h.elapsed]
    exact Mirrors.pure _

theorem mirrors_recordFailure : Mirrors recordFailure recordFailure :=
  mirrors_elapsedTime.bind fun _ => (Act.mirrors_observe _ _).bind fun _ => Act.mirrors_count _

theorem Act.Mirrors.counted {α : Type} {t u : Act α} (h : t.Mirrors u) (counts : Failure → Bool) :
    Mirrors (counted counts t) (counted counts u) := by
  refine h.attempt.bind fun answer => ?_
  rcases answer with f | a
  · exact Mirrors.ite (mirrors_recordFailure.bind fun _ => Mirrors.fail f)
      (Mirrors.fail f)
  · exact Mirrors.pure a

theorem mirrors_dumpIsThere (path : FilePath) : Mirrors (dumpIsThere path) (dumpIsThere path) := by
  refine Mirrors.get_bind fun r s h => ?_
  rw [h.files]
  split
  · exact Mirrors.pure _
  · exact (Act.mirrors_say _ _ _ _ _ _).bind fun _ =>
      mirrors_recordFailure.bind fun _ => Mirrors.fail _

theorem mirrors_readDump (path : FilePath) : Mirrors (readDump path) (readDump path) := by
  refine Mirrors.get_bind fun r s h => ?_
  rw [h.files]
  dsimp only
  split
  · exact (Act.mirrors_say _ _ _ _ _ _).bind fun _ => Mirrors.fail _
  · refine (Act.mirrors_say _ _ _ _ _ _).bind fun _ => ?_
    split
    · exact Mirrors.pure _
    · exact (Act.mirrors_say _ _ _ _ _ _).bind fun _ => Mirrors.fail _

variable {x y : Executor}

theorem mirrors_keyOf (h : x.SameTask y) (changed : FileTime) :
    Mirrors (keyOf x.config changed) (keyOf y.config changed) := by
  delta keyOf
  rw [h.folder, h.redis]
  split
  · exact Mirrors.fail _
  · split
    · exact Mirrors.pure _
    · exact Mirrors.fail _

/-- `pickDump` makes the same calls for `x` and `y`. -/
theorem mirrors_pickDump (h : x.SameTask y) : Mirrors (pickDump x) (pickDump y) := by
  rw [pickDump, pickDump, h.redis, h.dumpPath]
  refine (Act.mirrors_count _).bind fun _ => ?_
  refine ((mirrors_shouldBackup _).counted _).bind fun selected => ?_
  refine Mirrors.ite ((Act.mirrors_say _ _ _ _ _ _).bind fun _ => Mirrors.pure _) ?_
  refine (mirrors_dumpIsThere _).bind fun found => ?_
  refine Mirrors.ite ((Act.mirrors_say _ _ _ _ _ _).bind fun _ => Mirrors.pure _) ?_
  have hread : Mirrors (readKeyed x) (readKeyed y) := by
    rw [readKeyed, readKeyed, h.dumpPath]
    exact (mirrors_readDump _).bind fun dump => (mirrors_keyOf h dump.2).bind fun _ =>
      (Act.mirrors_say _ _ _ _ _ _).bind fun _ => Mirrors.pure _
  exact (hread.counted _).bind fun _ => Mirrors.pure _

/-- What `noteUpload` says differs only in the names of the stores. -/
theorem mirrors_noteUpload (key : String) (content : ByteArray) (answer : Except Failure Unit) :
    Mirrors (noteUpload x key content answer) (noteUpload y key content answer) := by
  rcases answer with f | _
  · cases f with
    | storage e =>
      exact (Act.mirrors_count _).bind fun _ => (Act.mirrors_say _ _ _ _ _ _).bind fun _ =>
        Mirrors.fail _
    | _ => exact Mirrors.fail _
  · refine (Act.mirrors_count _).bind fun _ => (Act.mirrors_observe _ _).bind fun _ => ?_
    refine Mirrors.get_bind fun r s hrs => ?_
    rw [hrs.now]
    exact (Act.mirrors_modify_metrics fun m =>
      m.setGauge (s.world.now.toFloat?.getD m.lastBackup)).bind fun _ =>
        Act.mirrors_say _ _ _ _ _ _

theorem mirrors_partitionNow (s t : Store) (policy : RetentionSettings) (beginning : String) :
    Mirrors (partitionNow s policy beginning) (partitionNow t policy beginning) := by
  have hlist := (s.does_list beginning).mirrors (t.does_list beginning)
  exact hlist.bind fun _ => Act.mirrors_currentTime.bind fun _ => Act.mirrors_liftM _

theorem mirrors_deleteOne (s t : Store) (key : String) :
    Mirrors (deleteOne s key) (deleteOne t key) := by
  refine (Act.mirrors_say _ _ _ _ _ _).bind fun _ => (Act.mirrors_count _).bind fun _ => ?_
  have hdelete := (s.does_delete key).mirrors (t.does_delete key)
  refine hdelete.attempt.bind fun answer => ?_
  rcases answer with f | _
  · cases f with
    | storage e =>
      exact (Act.mirrors_say _ _ _ _ _ _).bind fun _ => (Act.mirrors_count _).bind fun _ =>
        Mirrors.pure _
    | _ => exact Mirrors.fail _
  · exact (Act.mirrors_count _).bind fun _ => Mirrors.pure _

theorem mirrors_deleteAll (s t : Store) (records : List Record) :
    Mirrors (deleteAll s records) (deleteAll t records) := by
  induction records with
  | nil => exact Mirrors.pure _
  | cons a rest ih =>
    exact (mirrors_deleteOne s t a.key).bind fun _ => ih.bind fun _ => Mirrors.pure _

theorem mirrors_cleanup (s t : Store) (policy : RetentionSettings) (beginning : String) :
    Mirrors (cleanup s policy beginning) (cleanup t policy beginning) := by
  refine (Act.mirrors_count _).bind fun _ => ?_
  refine (mirrors_partitionNow s t policy beginning).bind fun plan => ?_
  refine (Act.mirrors_say _ _ _ _ _ _).bind fun _ => ?_
  refine (mirrors_deleteAll s t plan.toDelete).bind fun deleted => ?_
  exact Mirrors.ite ((Act.mirrors_say _ _ _ _ _ _).bind fun _ => Mirrors.pure _) (Mirrors.pure _)

theorem mirrors_enforceRetention (h : x.SameTask y) :
    Mirrors (enforceRetention x) (enforceRetention y) := by
  rw [enforceRetention, enforceRetention, h.folder, h.redis, h.retention]
  refine (mirrors_cleanup _ _ _ _).attempt.bind fun answer => ?_
  rcases answer with f | _
  · cases f with
    | storage e => exact Act.mirrors_say _ _ _ _ _ _
    | _ => exact Mirrors.fail _
  · exact Mirrors.pure _

/-- **A cycle does the same with every store**: those of `x` and `y` mirror each other if the
executors have the same task. -/
theorem mirrors_runCycle (h : x.SameTask y) : Mirrors (runCycle x) (runCycle y) := by
  rw [runCycle_eq, runCycle_eq]
  refine (mirrors_pickDump h).bind fun dump => ?_
  rcases dump with _ | ⟨key, content⟩
  · exact Mirrors.pure _
  have hup := (x.store.does_upload key content).mirrors (y.store.does_upload key content)
  refine hup.attempt.bind fun answer => ?_
  refine ((mirrors_noteUpload key content answer).counted _).bind fun _ => ?_
  refine mirrors_elapsedTime.bind fun _ => (Act.mirrors_observe _ _).bind fun _ => ?_
  refine (Act.mirrors_count _).bind fun _ => (mirrors_enforceRetention h).bind fun _ => ?_
  exact Mirrors.pure _

/-! ### Cycles in a row -/

/-- Whether a change plans no faults, and leaves parts a size above zero. -/
def Change.isCalm : Change → Bool
  | .fail .. => false
  | .limits l => 0 < l.chunk
  | _ => true

theorem scene_change (w : World) (c : Change) : (w.change c).scene = (w.scene.change c).scene := by
  cases c <;> rfl

/-- What can be seen changes with `c` in the same way in worlds that show the same. -/
theorem Run.Alike.change {r s : Run} (h : r.Alike s) {c : Change} (hc : c.isCalm = true) :
    Run.Alike { r with world := r.world.change c } { s with world := s.world.change c } := by
  have hfaults : ∀ w : World, w.faults = [] → (w.change c).faults = [] := by
    intro w hw
    cases c with
    | fail => cases hc
    | _ => exact hw
  have hchunk : 0 < (r.world.change c).limits.chunk := by
    cases c with
    | limits l => exact of_decide_eq_true hc
    | _ => exact h.chunk
  refine ⟨?_, hfaults _ h.calm, hfaults _ h.calm', h.metrics, h.connected, hchunk⟩
  rw [scene_change, h.scene, ← scene_change]

theorem mirrors_changes {changes : List Change} (h : ∀ c ∈ changes, c.isCalm = true) :
    Mirrors (changeWorld fun w => changes.foldl World.change w)
      (changeWorld fun w => changes.foldl World.change w) := by
  intro r s hrs
  refine ⟨rfl, ?_⟩
  rw [Act.on_changeWorld, Act.on_changeWorld]
  induction changes generalizing r s with
  | nil => exact hrs
  | cons c rest ih =>
    exact ih (fun c hc => h c (List.mem_cons_of_mem _ hc)) _ _
      (hrs.change (h c List.mem_cons_self))

/-- Cycles of `x` one after the other, each with some changes of the world before it.  The answer is
what each cycle has answered, or how it has failed. -/
def Executor.cycles (x : Executor) :
    List (List Change) → Act (List (Except Failure (Option String)))
  | [] => pure []
  | changes :: rest => do
    changeWorld fun w => changes.foldl World.change w
    let answer ← attempt (runCycle x)
    let more ← x.cycles rest
    return answer :: more

theorem mirrors_cycles (h : x.SameTask y) {course : List (List Change)}
    (hcalm : ∀ changes ∈ course, ∀ c ∈ changes, c.isCalm = true) :
    Mirrors (x.cycles course) (y.cycles course) := by
  induction course with
  | nil => exact Mirrors.pure _
  | cons changes rest ih =>
    refine (mirrors_changes (hcalm changes List.mem_cons_self)).bind fun _ => ?_
    refine (mirrors_runCycle h).attempt.bind fun answer => ?_
    exact (ih fun c hc => hcalm c (List.mem_cons_of_mem _ hc)).bind fun _ => Mirrors.pure _

/-- **An S3 store and a GCS store are as good as each other.**  Where no call fails, `upload`,
`list` and `delete` answer the same and leave the same objects, and so do any cycles that are made
with them, whatever the world does in between; what is counted is the same, too. -/
theorem s3_mirrors_gcs {c c' : Config} {bucket bucket' : String}
    (h : Executor.SameTask ⟨c, ⟨.s3, bucket⟩⟩ ⟨c', ⟨.gcs, bucket'⟩⟩) :
    (∀ key content, Mirrors (S3.upload bucket key content) (Gcs.upload bucket' key content)) ∧
    (∀ beginning, Mirrors (S3.list bucket beginning) (Gcs.list bucket' beginning)) ∧
    (∀ key, Mirrors (S3.delete bucket key) (Gcs.delete bucket' key)) ∧
    ∀ course : List (List Change), (∀ changes ∈ course, ∀ d ∈ changes, d.isCalm = true) →
      Mirrors (Executor.cycles ⟨c, ⟨.s3, bucket⟩⟩ course)
        (Executor.cycles ⟨c', ⟨.gcs, bucket'⟩⟩ course) := by
  let s : Store := ⟨.s3, bucket⟩
  let t : Store := ⟨.gcs, bucket'⟩
  refine ⟨fun key content => ?_, fun beginning => ?_, fun key => ?_, fun _ => mirrors_cycles h⟩
  · exact (s.does_upload key content).mirrors (t.does_upload key content)
  · exact (s.does_list beginning).mirrors (t.does_list beginning)
  · exact (s.does_delete key).mirrors (t.does_delete key)

end Cycles

/-! ## Two stores with the same task -/

/-- A run with a dump, and with an object of which the store reports neither size nor time. -/
def undatedRun : Run :=
  Run.holding (.mk #[1]) ⟨1705320000, 0⟩ 1705320005 [⟨"backups/a_undated", .empty, none, none⟩]

/-- The changes before two cycles: none before the first one, and a day later the dump is gone. -/
def twoDays : List (List Change) :=
  [[], [.now (.whole 1705406405), .remove ⟨"/", ["data", "dump.rdb"]⟩]]

/-- Both stores get the backup of the first of `twoDays`, and none on the second. -/
theorem same_answers_in_two_days :
    let c := (Executor.keeping "backups" "a" 1).config
    Executor.SameTask ⟨c, ⟨.s3, "east"⟩⟩ ⟨c, ⟨.gcs, "west"⟩⟩ ∧
      (∀ changes ∈ twoDays, ∀ d ∈ changes, d.isCalm = true) ∧ undatedRun.Alike undatedRun ∧
      ∃ s t, (Executor.cycles ⟨c, ⟨.s3, "east"⟩⟩ twoDays).on undatedRun =
          (.ok [.ok (some "backups/a_2024-01-15T12:00:00Z.rdb"), .ok none], s) ∧
        (Executor.cycles ⟨c, ⟨.gcs, "west"⟩⟩ twoDays).on undatedRun =
          (.ok [.ok (some "backups/a_2024-01-15T12:00:00Z.rdb"), .ok none], t) ∧ s.Alike t := by
  intro c
  have htask : Executor.SameTask ⟨c, ⟨.s3, "east"⟩⟩ ⟨c, ⟨.gcs, "west"⟩⟩ := ⟨rfl, rfl, rfl, rfl⟩
  have hcalm : ∀ changes ∈ twoDays, ∀ d ∈ changes, d.isCalm = true := by
    intro changes hchanges d hd
    rw [twoDays, List.mem_cons, List.mem_singleton] at hchanges
    rcases hchanges with rfl | rfl
    · exact absurd hd List.not_mem_nil
    · rw [List.mem_cons, List.mem_singleton] at hd
      rcases hd with rfl | rfl <;> rfl
  have halike : undatedRun.Alike undatedRun :=
    ⟨rfl, rfl, rfl, rfl, rfl, show (0 : Int) < 10485760 by decide⟩
  have hfirst : ((Executor.cycles ⟨c, ⟨.s3, "east"⟩⟩ twoDays).on undatedRun).1 =
      .ok [.ok (some "backups/a_2024-01-15T12:00:00Z.rdb"), .ok none] := by decide +kernel
  obtain ⟨hsame, hleft⟩ := (s3_mirrors_gcs htask).2.2.2 twoDays hcalm undatedRun undatedRun halike
  rcases hs : (Executor.cycles ⟨c, ⟨.s3, "east"⟩⟩ twoDays).on undatedRun with ⟨a, s⟩
  rcases ht : (Executor.cycles ⟨c, ⟨.gcs, "west"⟩⟩ twoDays).on undatedRun with ⟨b, t⟩
  rw [hs] at hfirst hsame hleft
  rw [ht] at hsame hleft
  obtain rfl := hfirst
  obtain rfl := hsame
  exact ⟨htask, hcalm, halike, s, t, rfl, rfl, hleft⟩

end DumpKeeper
