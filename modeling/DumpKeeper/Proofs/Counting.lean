import DumpKeeper.Proofs.Cycle
import DumpKeeper.Proofs.Stumbling

/-!
# What a cycle counts

A cycle can end in many ways, but all that it counts depends on four of them: it was skipped, it
failed before the upload, the store refused the upload, or the dump was stored.

* `World.IsUsual` — a world in which calls fail only as expected, with a dump that has a date.
* `Metrics.noteFailure`, `Metrics.noteStored`, `Metrics.noteDeletions` — what is counted.
* `enforceRetention_shows` — that retention fails by stumbling only.
* `Executor.Accounts`, `accounts_runCycle` — the four ways in which a cycle can end, each with its
  answer and all that was counted on the way.
-/

set_option autoImplicit false

namespace DumpKeeper

/-! ## Usual worlds -/

/-- How long a cycle takes that is made in the world `w`. -/
def World.took (w : World) : Amount := .fraction (w.elapsed.toFloat?.getD 0)

/-- The world `w` is one that cycles usually meet: the faults that are planned are counted on, and
the clock and the file `dump` have times. -/
structure World.IsUsual (w : World) (dump : FilePath) : Prop where
  /-- No other faults are planned. -/
  expects : w.Expects
  /-- The clock shows a point in time. -/
  clock : ∃ now, DateTime.ofReading w.now = .ok now
  /-- The dump was changed at a point in time. -/
  dated : ∀ content changed, w.files.find dump = .ok (.file content changed) →
    ∃ t, DateTime.ofUnixSeconds changed.wholeSeconds = .ok t
  /-- Parts have a size. -/
  chunk : 0 < w.limits.chunk

/-- The world `w` is a usual one with a small `dump` of a known time. -/
theorem World.isUsual_of_holding {w : World} {dump : FilePath} {now : DateTime}
    (hfind : w.files.find dump = .ok (.file (.mk #[1]) ⟨1705320000, 0⟩)) (hexpects : w.Expects)
    (hclock : DateTime.ofReading w.now = .ok now) (hlimits : w.limits = {}) : w.IsUsual dump := by
  refine ⟨hexpects, ⟨now, hclock⟩, fun content changed h => ?_, ?_⟩
  · rw [hfind] at h
    cases h
    exact ⟨⟨63840916800000000, some 0⟩, by decide +kernel⟩
  · rw [hlimits]
    decide

/-! ## What is counted -/

/-- The number `sum`, to which one was added `n` times. -/
def Tally.grown (sum : Tally) : Nat → Tally
  | 0 => sum
  | k + 1 => sum.next.grown k

@[simp] theorem Tally.grown_count (n k : Nat) : (count n).grown k = count (n + k) := by
  induction k generalizing n with
  | zero => rfl
  | succ k ih =>
    rw [grown, next, ih, Nat.add_assoc, Nat.add_comm 1 k]

namespace Metrics

@[simp] theorem lastBackup_tick (m : Metrics) (c : Counter) :
    (m.tick c).lastBackup = m.lastBackup := by
  cases c <;> rfl

@[simp] theorem lastBackup_observe (m : Metrics) (d : Distribution) (a : Amount) :
    (m.observe d a).lastBackup = m.lastBackup := by
  cases d <;> rfl

/-- What `m` is after a cycle that failed and `took` so long: it is timed and counted. -/
def noteFailure (m : Metrics) (took : Amount) : Metrics := (m.observe .durations took).tick .failed

/-- What `m` is after a dump of `size` bytes was stored at the time `now`. -/
def noteUpload (m : Metrics) (size : Nat) (now : Reading) : Metrics :=
  ((m.tick .uploads).observe .sizes (.whole size)).setGauge (now.toFloat?.getD m.lastBackup)

/-- What `m` is after a cycle that has stored a dump of `size` bytes, before anything is deleted. -/
def noteStored (m : Metrics) (size : Nat) (now : Reading) (took : Amount) : Metrics :=
  (((m.noteUpload size now).observe .durations took).tick .successful).tick .cleanups

/-- What `m` is after a deletion that was tried, and `worked` or did not. -/
def noteDeletion (m : Metrics) (worked : Bool) : Metrics :=
  (m.tick .deletes).tick (if worked then .deleted else .deleteFailures)

/-- What `m` is after some deletions that were tried one after the other. -/
def noteDeletions (m : Metrics) (worked : List Bool) : Metrics := worked.foldl noteDeletion m

/-- Deletions are counted in three places of `m` and nowhere else. -/
theorem noteDeletions_eq (m : Metrics) (worked : List Bool) :
    m.noteDeletions worked =
      { m with
        deletes := m.deletes.grown worked.length
        deleted := m.deleted.grown (worked.count true)
        deleteFailures := m.deleteFailures.grown (worked.count false) } := by
  induction worked generalizing m with
  | nil => rfl
  | cons b rest ih =>
    show (m.noteDeletion b).noteDeletions rest = _
    rw [ih]
    cases b <;> simp [noteDeletion, tick, update, Tally.grown]

end Metrics

/-- A run has counted `m`, and its world follows `w`. -/
structure Run.Shows (w : World) (m : Metrics) (r : Run) : Prop where
  /-- What was counted. -/
  metrics : r.metrics = m
  /-- The world. -/
  follows : w.Follows r.world

variable {w : World} {m : Metrics} {r : Run}

/-- The act `t`, which only makes calls, counts nothing. -/
theorem Act.Weathers.shows {α : Type} {fails : Failure → Prop} {t : Act α}
    (h : t.Weathers w fails) (hr : r.Shows w m) :
    t.Ends r (fun _ s => s.Shows w m) fun f s => s.Shows w m ∧ fails f :=
  (h r hr.follows).mono (fun _ _ hs => ⟨hs.1.metrics.trans hr.metrics, hs.2⟩)
    fun _ _ hs => ⟨⟨hs.1.1.metrics.trans hr.metrics, hs.1.2⟩, hs.2⟩

theorem say_shows (level : Level) (source : Source) (message : String) (hr : r.Shows w m) :
    (say level source message).Ends r (fun _ s => s.Shows w m) fun _ _ => False := by
  have hsay : (say level source message).Weathers w fun _ => False := Act.weathers_say _ _ _
  exact (hsay.shows hr).mono (fun _ _ hs => hs) fun _ _ hs => hs.2

/-- The counter `c` counts one more, aside. -/
theorem Run.Shows.count (hr : r.Shows w m) (c : Counter) :
    Run.Shows w (m.tick c) { r with metrics := r.metrics.tick c } :=
  ⟨by rw [← hr.metrics], hr.follows⟩

theorem Run.Shows.observe (hr : r.Shows w m) (d : Distribution) (a : Amount) :
    Run.Shows w (m.observe d a) { r with metrics := r.metrics.observe d a } :=
  ⟨by rw [← hr.metrics], hr.follows⟩

/-- The time that a cycle takes is `w.took` wherever it is looked up. -/
theorem Run.Shows.took (hr : r.Shows w m) : elapsedTime.on r = (.ok w.took, r) := by
  rw [World.took, ← hr.follows.elapsed]
  rfl

theorem recordFailure_shows (hr : r.Shows w m) :
    recordFailure.Ends r (fun _ s => s.Shows w (m.noteFailure w.took)) fun _ _ => False :=
  Act.Ends.bind_ok hr.took <| Act.Ends.bind_ok (Act.on_observe _ _ r) <|
    Act.ends_of_ok (Act.on_count _ _) ((hr.observe _ _).count _)

/-- The step `t`, of which all failures are counted. -/
theorem counted_shows {α : Type} {counts : Failure → Bool} {fails : Failure → Prop} {t : Act α}
    {done : α → Run → Prop} (hc : ∀ f, fails f → counts f = true)
    (h : t.Ends r done fun f s => s.Shows w m ∧ fails f) :
    (counted counts t).Ends r done fun f s => s.Shows w (m.noteFailure w.took) ∧ fails f := by
  refine h.attempt (fun _ _ hd => Act.Ends.pure hd) fun f s ⟨hs, hf⟩ => ?_
  dsimp only
  rw [if_pos (hc f hf)]
  exact (recordFailure_shows hs).bind_of (fun _ _ h => h.elim) fun _ t ht => Act.Ends.fail ⟨ht, hf⟩

/-! ## The first stage of a cycle -/

section Role

open Replication

theorem weathers_openClient (hw : w.Expects) (url : String) :
    (openClient url).Weathers w fun f => ∃ g, f = .service g ∧ refusesClient g = true := by
  refine Act.Weathers.get_bind fun r _ => ?_
  split
  · exact (Act.weathers_request hw _).mono fun _ hf => hf.2
  · exact Act.Weathers.fail ⟨_, rfl, rfl⟩

theorem connect_shows (hw : w.Expects) (url : String) (hr : r.Shows w m) :
    (connect url).Ends r (fun _ s => s.Shows w m)
      fun f s => s.Shows w m ∧ f.isRole = true := by
  refine Act.Ends.get_bind ?_
  split
  · exact Act.Ends.pure hr
  refine ((weathers_openClient hw url).shows hr).attempt (fun _ s hs => ?_) ?_
  · exact Act.ends_of_ok rfl ⟨hs.metrics, hs.follows⟩
  · rintro _ s ⟨hs, g, rfl, hg⟩
    dsimp only
    rw [if_pos hg]
    exact Act.Ends.fail ⟨hs, rfl⟩

theorem ask_shows (hw : w.Expects) (c : Call) (report : ServiceFault → RoleError)
    (hc : ∀ g, c.expects g = true → g.isRedis = true) (hr : r.Shows w m) :
    (ask c report).Ends r (fun _ s => s.Shows w m)
      fun f s => s.Shows w m ∧ f.isRole = true := by
  refine ((Act.weathers_request hw c).shows hr).attempt (fun _ _ hs => Act.Ends.pure hs) ?_
  rintro _ s ⟨hs, -, g, rfl, hg⟩
  dsimp only
  rw [if_pos (hc g hg)]
  exact Act.Ends.fail ⟨hs, rfl⟩

/-- `shouldBackup` counts nothing, and fails with an error of its own. -/
theorem shouldBackup_shows (hw : w.Expects) (settings : RedisSettings) (hr : r.Shows w m) :
    (shouldBackup settings).Ends r (fun _ s => s.Shows w m)
      fun f s => s.Shows w m ∧ f.isRole = true := by
  rw [shouldBackup]
  split
  · have hrole : (askRole settings.connection).Ends r (fun _ s => s.Shows w m)
        fun f s => s.Shows w m ∧ f.isRole = true :=
      (connect_shows hw _ hr).bind fun _ s hs =>
        (ask_shows hw .askReplication _ (fun _ hg => hg) hs).bind fun _ t ht =>
          Act.Ends.get_bind (Act.Ends.pure ht)
    refine hrole.bind fun role s hs => ?_
    have hsay : (sayRole settings role).Weathers w fun f => f.isRole = true := by
      cases role <;> exact Act.weathers_say _ _ _
    exact (hsay.shows hs).bind fun _ t ht => Act.Ends.pure ht
  · exact Act.Ends.pure hr

end Role

section Stages

variable {x : Executor}

theorem dumpIsThere_shows (path : FilePath) (hr : r.Shows w m) :
    (dumpIsThere path).Ends r (fun _ s => s.Shows w m)
      fun f s => s.Shows w (m.noteFailure w.took) ∧ ∀ e, f ≠ .storage e := by
  refine Act.Ends.get_bind ?_
  split
  · exact Act.Ends.pure hr
  · refine (say_shows _ _ _ hr).bind_of (fun _ _ h => h.elim) fun _ s hs => ?_
    exact (recordFailure_shows hs).bind_of (fun _ _ h => h.elim) fun _ t ht =>
      Act.Ends.fail ⟨ht, fun _ => Failure.noConfusion⟩

theorem readDump_shows (path : FilePath) (hr : r.Shows w m) :
    (readDump path).Ends r
      (fun dump s => s.Shows w m ∧ w.files.find path = .ok (.file dump.1 dump.2))
      fun f s => s.Shows w m ∧ ∃ e, f = .dump e := by
  refine Act.Ends.get_bind ?_
  rw [hr.follows.files]
  dsimp only
  split
  · exact (say_shows _ _ _ hr).bind_of (fun _ _ h => h.elim) fun _ s hs =>
      Act.Ends.fail ⟨hs, _, rfl⟩
  · rename_i found hstat
    refine (say_shows _ _ _ hr).bind_of (fun _ _ h => h.elim) fun _ s hs => ?_
    split
    · rename_i content hread
      exact Act.Ends.pure ⟨hs, FileTree.find_of_stat_of_read hstat hread⟩
    · exact (say_shows _ _ _ hs).bind_of (fun _ _ h => h.elim) fun _ t ht =>
        Act.Ends.fail ⟨ht, _, rfl⟩

/-- A dump with the date `t` has a key. -/
theorem exists_backupKey? {seconds : Int} {t : DateTime}
    (h : DateTime.ofUnixSeconds seconds = .ok t) (folder node : String) :
    ∃ key, backupKey? folder node t = some key := by
  have hreading : DateTime.ofReading (.whole seconds) = .ok t := h
  obtain ⟨u, hu⟩ := exists_toUtcSeconds? hreading
  exact ⟨_, by rw [backupKey?, hu, Option.map_some]⟩

theorem readKeyed_shows (hw : w.IsUsual x.config.dumpPath) (hr : r.Shows w m) :
    (readKeyed x).Ends r
      (fun dump s => s.Shows w m ∧
        ∃ changed, w.files.find x.config.dumpPath = .ok (.file dump.2 changed))
      fun f s => s.Shows w m ∧ ∃ e, f = .dump e := by
  refine (readDump_shows _ hr).bind ?_
  rintro ⟨content, changed⟩ s ⟨hs, hfind⟩
  obtain ⟨t, ht⟩ := hw.dated content changed hfind
  obtain ⟨key, hkey⟩ := exists_backupKey? ht x.config.storage.cleanFolder x.config.redis.nodeName
  have hkeyOf : (keyOf x.config changed).on s = (.ok key, s) := by
    delta keyOf
    rw [ht]
    dsimp only
    rw [hkey]
    rfl
  refine Act.Ends.bind_ok hkeyOf ?_
  exact (say_shows _ _ _ hs).bind_of (fun _ _ h => h.elim) fun _ u hu =>
    Act.Ends.pure ⟨hu, changed, hfind⟩

/-- **`pickDump` counts an attempt**, and a failure if it comes to one. -/
theorem pickDump_shows (hw : w.IsUsual x.config.dumpPath) (hr : r.Shows w m) :
    (pickDump x).Ends r
      (fun dump s => s.Shows w (m.tick .attempted) ∧ ∀ key content, dump = some (key, content) →
        ∃ changed, w.files.find x.config.dumpPath = .ok (.file content changed))
      fun f s => s.Shows w ((m.tick .attempted).noteFailure w.took) ∧ ∀ e, f ≠ .storage e := by
  refine Act.Ends.bind_ok (Act.on_count .attempted r) ?_
  have hrole := shouldBackup_shows hw.expects x.config.redis (hr.count .attempted)
  refine (counted_shows (fun _ hf => hf) hrole).bind_of ?_ ?_
  · rintro f s ⟨hs, hf⟩
    exact ⟨hs, fun e he => by rw [he] at hf; cases hf⟩
  intro selected s hs
  cases selected with
  | false =>
    exact (say_shows _ _ _ hs).bind_of (fun _ _ h => h.elim) fun _ t ht =>
      Act.Ends.pure ⟨ht, fun _ _ h => by cases h⟩
  | true =>
    refine (dumpIsThere_shows _ hs).bind fun found t ht => ?_
    cases found with
    | false =>
      exact (say_shows _ _ _ ht).bind_of (fun _ _ h => h.elim) fun _ u hu =>
        Act.Ends.pure ⟨hu, fun _ _ h => by cases h⟩
    | true =>
      have hcounts : ∀ f, (∃ e, f = Failure.dump e) → f.isUpload = true := by
        rintro _ ⟨e, rfl⟩
        rfl
      refine (counted_shows hcounts (readKeyed_shows hw ht)).bind_of ?_ ?_
      · rintro _ u ⟨hu, e, rfl⟩
        exact ⟨hu, fun _ => Failure.noConfusion⟩
      · rintro dump u ⟨hu, hfind⟩
        refine Act.Ends.pure ⟨hu, fun key content h => ?_⟩
        rw [Option.some.inj h] at hfind
        exact hfind

/-! ## Upload and retention -/

/-- `noteUpload` counts a stored dump, and sets the gauge. -/
theorem noteUpload_shows_ok (key : String) (content : ByteArray) (hr : r.Shows w m) :
    (noteUpload x key content (.ok ())).Ends r
      (fun _ s => s.Shows w (m.noteUpload content.size w.now)) fun _ _ => False := by
  refine Act.Ends.bind_ok (Act.on_count .uploads r) ?_
  refine Act.Ends.bind_ok (Act.on_observe .sizes (.whole content.size) _) ?_
  refine Act.Ends.get_bind (Act.Ends.bind_ok (Act.on_modify _ _) (say_shows _ _ _ ?_))
  refine ⟨?_, hr.follows⟩
  simp only [Metrics.noteUpload, hr.metrics, hr.follows.now, Metrics.lastBackup_observe,
    Metrics.lastBackup_tick]

/-- `noteUpload` counts an upload that the store has refused with `e`, and the cycle fails. -/
theorem noteUpload_shows_error (key : String) (content : ByteArray) (e : StorageError)
    (hr : r.Shows w m) :
    (counted Failure.isUpload (noteUpload x key content (.error (.storage e)))).Ends r
      (fun _ _ => False)
      fun f s => s.Shows w ((m.tick .uploads).noteFailure w.took) ∧ f = .storage e := by
  refine counted_shows (by rintro _ rfl; rfl) ?_
  refine Act.Ends.bind_ok (Act.on_count .uploads r) ?_
  exact (say_shows _ _ _ (hr.count .uploads)).bind_of (fun _ _ h => h.elim) fun _ s hs =>
    Act.Ends.fail ⟨hs, rfl⟩

/-- `deleteOne` counts every deletion as one that worked or as one that did not. -/
theorem deleteOne_shows (hw : w.Expects) (s : Store) (key : String) (hr : r.Shows w m) :
    (deleteOne s key).Ends r (fun worked t => t.Shows w (m.noteDeletion worked))
      fun _ _ => False := by
  refine (say_shows _ _ _ hr).bind fun _ t ht => ?_
  refine Act.Ends.bind_ok (Act.on_count .deletes t) ?_
  refine ((s.weathers_delete hw key).shows (ht.count .deletes)).attempt (fun _ u hu => ?_) ?_
  · exact Act.Ends.bind_ok (Act.on_count .deleted u) (Act.Ends.pure (hu.count .deleted))
  · rintro _ u ⟨hu, -, e, rfl⟩
    refine (say_shows _ _ _ hu).bind fun _ v hv => ?_
    exact Act.Ends.bind_ok (Act.on_count .deleteFailures v) (Act.Ends.pure (hv.count _))

theorem deleteAll_shows (hw : w.Expects) (s : Store) (records : List Record) (hr : r.Shows w m) :
    (deleteAll s records).Ends r (fun _ t => ∃ worked, t.Shows w (m.noteDeletions worked))
      fun _ _ => False := by
  -- every deletion counts on from what those before it have counted
  induction records generalizing r m with
  | nil => exact Act.Ends.pure ⟨[], hr⟩
  | cons a rest ih =>
    refine (deleteOne_shows hw s a.key hr).bind fun worked t ht => (ih ht).bind ?_
    rintro _ u ⟨more, hu⟩
    exact Act.Ends.pure ⟨worked :: more, hu⟩

theorem cleanup_shows (hw : w.Expects) {now : DateTime} (hn : DateTime.ofReading w.now = .ok now)
    (s : Store) (policy : RetentionSettings) (beginning : String) (hr : r.Shows w m) :
    (cleanup s policy beginning).Ends r
      (fun _ t => ¬s.Stumbles policy beginning r ∧
        ∃ worked, t.Shows w ((m.tick .cleanups).noteDeletions worked))
      fun f t => t.Shows w (m.tick .cleanups) ∧
        (s.Stumbles policy beginning r ↔ ∀ e, f ≠ .storage e) := by
  refine Act.Ends.bind_ok (Act.on_count .cleanups r) ?_
  have hcount := hr.count .cleanups
  have hplan := (partitionNow_stumbles hw hcount.follows hn).and
    ((weathers_partitionNow hw s policy beginning).shows hcount)
  have hworld : s.Stumbles policy beginning { r with metrics := r.metrics.tick .cleanups } ↔
      s.Stumbles policy beginning r := Store.stumbles_congr rfl
  refine hplan.bind_of (fun f t ht => ⟨ht.2.1, hworld.symm.trans ht.1⟩) ?_
  rintro plan t ⟨hno, ht⟩
  refine (say_shows _ _ _ ht).bind_of (fun _ _ h => h.elim) fun _ u hu => ?_
  refine (deleteAll_shows hw s plan.toDelete hu).bind_of (fun _ _ h => h.elim) ?_
  rintro deleted v ⟨worked, hv⟩
  split
  · exact (say_shows _ _ _ hv).bind_of (fun _ _ h => h.elim) fun _ z hz =>
      Act.Ends.pure ⟨mt hworld.2 hno, worked, hz⟩
  · exact Act.Ends.pure ⟨mt hworld.2 hno, worked, hv⟩

/-- The cleanup that `x` makes in `r` stumbles over a time, by `Store.Stumbles`. -/
abbrev Executor.Stumbles (x : Executor) (r : Run) : Prop :=
  x.store.Stumbles x.config.retention x.nodeFolder r

/-- **`enforceRetention` fails only by stumbling**: what a store reports is noted and does no
harm. -/
theorem enforceRetention_shows (hw : w.Expects) {now : DateTime}
    (hn : DateTime.ofReading w.now = .ok now) (x : Executor) (hr : r.Shows w m) :
    (enforceRetention x).Ends r
      (fun _ t => ¬x.Stumbles r ∧ ∃ worked, t.Shows w ((m.tick .cleanups).noteDeletions worked))
      fun f t => t.Shows w (m.tick .cleanups) ∧ (∀ e, f ≠ .storage e) ∧ x.Stumbles r := by
  refine (cleanup_shows hw hn _ _ _ hr).attempt (fun _ t ht => Act.Ends.pure ht) ?_
  rintro f t ⟨ht, hf⟩
  cases f with
  | storage e =>
    have hno : ¬x.Stumbles r := fun h => hf.1 h e rfl
    exact (say_shows _ _ _ ht).mono (fun _ _ hu => ⟨hno, [], hu⟩) fun _ _ h => h.elim
  | _ => exact Act.Ends.fail ⟨ht, fun _ => Failure.noConfusion, hf.2 fun _ => Failure.noConfusion⟩

/-- What is left to do for `x` once the dump is stored. -/
theorem afterUpload_shows (hw : w.Expects) {now : DateTime}
    (hn : DateTime.ofReading w.now = .ok now) (x : Executor) (key : String) (content : ByteArray)
    (hr : r.Shows w m) :
    Act.Ends (do
        counted Failure.isUpload (noteUpload x key content (.ok ()))
        observe .durations (← elapsedTime)
        count .successful
        enforceRetention x
        return some key) r
      (fun a s => (a = some key ∧ ¬x.Stumbles r) ∧
        ∃ worked, s.Shows w ((m.noteStored content.size w.now w.took).noteDeletions worked))
      fun f s => ((∀ e, f ≠ .storage e) ∧ x.Stumbles r) ∧
        ∃ worked, s.Shows w ((m.noteStored content.size w.now w.took).noteDeletions worked) := by
  have hnote := counted_ends Failure.isUpload
    ((noteUpload_shows_ok (x := x) key content hr).and (noteUpload_ends x key content (.ok ()) r))
    fun _ _ _ h _ => h.1
  refine hnote.bind_of (fun _ _ h => h.elim) ?_
  rintro _ s ⟨hs, hworld, -⟩
  refine Act.Ends.bind_ok hs.took (Act.Ends.bind_ok (Act.on_observe _ _ _) ?_)
  refine Act.Ends.bind_ok (Act.on_count .successful _) ?_
  refine (enforceRetention_shows hw hn x ((hs.observe _ _).count _)).bind_of ?_ ?_
  · rintro f t ⟨ht, hf, hstumbles⟩
    refine ⟨⟨hf, (Store.stumbles_congr ?_).1 hstumbles⟩, [], ht⟩
    exact hworld
  · rintro _ t ⟨hno, worked, ht⟩
    refine Act.Ends.pure ⟨⟨rfl, mt (Store.stumbles_congr ?_).2 hno⟩, worked, ht⟩
    exact hworld

/-! ## The ways in which a cycle can end -/

/-- All that a cycle of `x` in `r` can answer and have counted when it ends, with one constructor
for each way in which it comes to that. -/
inductive Executor.Accounts (x : Executor) (r : Run) :
    Except Failure (Option String) → Metrics → Prop
  /-- There was nothing to be backed up. -/
  | skipped (hup : uploaded? x r = none) : x.Accounts r (.ok none) (r.metrics.tick .attempted)
  /-- The role could not be found out, or the dump not be read. -/
  | failed {f : Failure} (hup : uploaded? x r = none) (hf : ∀ e, f ≠ .storage e) :
    x.Accounts r (.error f) ((r.metrics.tick .attempted).noteFailure r.world.took)
  /-- The store has refused the dump. -/
  | refused (e : StorageError) (hup : uploaded? x r = none) :
    x.Accounts r (.error (.storage e))
      (((r.metrics.tick .attempted).tick .uploads).noteFailure r.world.took)
  /-- The dump was stored.  The deletions behind that do not count for the answer: it is the key
  unless the cleanup stumbles over a time, and then it is no failure of the store. -/
  | stored {key : String} {content : ByteArray} {t : Run}
    {answer : Except Failure (Option String)} (worked : List Bool)
    (hup : uploaded? x r = some (key, content, t))
    (hfind : ∃ changed, r.world.files.find x.config.dumpPath = .ok (.file content changed))
    (hanswer : (answer = .ok (some key) ∧ ¬x.Stumbles t) ∨
      ∃ f, answer = .error f ∧ (∀ e, f ≠ .storage e) ∧ x.Stumbles t) :
    x.Accounts r answer
      (((r.metrics.tick .attempted).noteStored content.size r.world.now r.world.took).noteDeletions
        worked)

/-- **Every cycle ends in one of the four ways** of `Executor.Accounts`. -/
theorem accounts_runCycle (hw : r.world.IsUsual x.config.dumpPath) :
    x.Accounts r ((runCycle x).on r).1 ((runCycle x).on r).2.metrics := by
  obtain ⟨now, hnow⟩ := hw.clock
  have hr : r.Shows r.world r.metrics := ⟨rfl, World.Follows.refl _⟩
  have hend : (runCycle x).Ends r (fun a s => x.Accounts r (.ok a) s.metrics)
      fun f s => x.Accounts r (.error f) s.metrics := by
    rw [runCycle_eq]
    rcases hpick : (pickDump x).on r with ⟨f | dump, s⟩
    · obtain ⟨hs, hf⟩ := (pickDump_shows hw hr).of_error hpick
      refine Act.ends_of_error (Act.on_bind_error hpick) ?_
      rw [hs.metrics]
      exact .failed (by rw [uploaded?, hpick]) hf
    obtain ⟨hs, hdump⟩ := (pickDump_shows hw hr).of_ok hpick
    refine Act.Ends.bind_ok hpick ?_
    rcases dump with _ | ⟨key, content⟩
    · refine Act.Ends.pure ?_
      rw [hs.metrics]
      exact .skipped (by rw [uploaded?, hpick])
    have hchunk : r.world.limits.chunk ≠ 0 := by
      have := hw.chunk
      omega
    have hstores := (x.store.weathers_upload hw.expects hchunk key content).shows hs
    dsimp only
    rcases hstore : (x.store.upload key content).on s with ⟨f | _, t⟩
    · have hup : uploaded? x r = none := by
        rw [uploaded?, hpick]
        dsimp only
        rw [hstore]
      obtain ⟨ht, ⟨-, e, rfl⟩ | ⟨e, he, -⟩⟩ := hstores.of_error hstore
      · refine Act.Ends.bind_ok (a := .error (.storage e)) (s := t)
          (by rw [Act.on_attempt, hstore]) ?_
        refine (noteUpload_shows_error key content e ht).bind_of ?_ fun _ _ h => h.elim
        rintro _ u ⟨hu, rfl⟩
        rw [hu.metrics]
        exact .refused e hup
      · rw [hnow] at he
        cases he
    · have hup : uploaded? x r = some (key, content, t) := by
        rw [uploaded?, hpick]
        dsimp only
        rw [hstore]
      have hfind := hdump key content rfl
      refine Act.Ends.bind_ok (a := .ok ()) (s := t) (by rw [Act.on_attempt, hstore]) ?_
      refine (afterUpload_shows hw.expects hnow x key content (hstores.of_ok hstore)).mono ?_ ?_
      · rintro _ u ⟨⟨rfl, hno⟩, worked, hu⟩
        rw [hu.metrics]
        exact .stored worked hup hfind (.inl ⟨rfl, hno⟩)
      · rintro f u ⟨hf, worked, hu⟩
        rw [hu.metrics]
        exact .stored worked hup hfind (.inr ⟨f, rfl, hf⟩)
  rcases hon : (runCycle x).on r with ⟨f | a, s⟩
  · exact hend.of_error hon
  · exact hend.of_ok hon

end Stages

end DumpKeeper
