import DumpKeeper.Proofs.Counting
import DumpKeeper.Proofs.Keeping
import DumpKeeper.Proofs.Listing
import DumpKeeper.Proofs.Partition
import Mathlib.Data.Bool.Count

/-!
# What becomes of each backup that is to be deleted

A cleanup tries to delete every backup that it has planned to delete, one after the other, and a
deletion that is refused does not keep it from the next one.  Which of them are refused was planned
beforehand, so that calls, counters, answer and objects can all be told from the same list.

* `Fate`, `Store.fates` — what becomes of each of some objects whose deletions are tried in a row.
* `Store.Tried` — between two runs some deletions were tried; `deleteAll_tried` says that a cleanup
  tries all of them.
* `Run.Browses` — between two runs some listings were read; `Store.list_browses` says that nothing
  else happens while a cleanup makes its plan.
* `Store.Settles`, `cleanup_settles` — everything that a cleanup leaves behind, and that it does.
-/

set_option autoImplicit false

namespace DumpKeeper

/-! ## Fates -/

/-- What becomes of an object when its deletion is tried. -/
inductive Fate where
  /-- It is removed. -/
  | removed
  /-- The store answers that there is no such object, which counts as deleted. -/
  | missing
  /-- The store refuses. -/
  | refused
  deriving DecidableEq

/-- Whether an object with this fate counts as deleted. -/
def Fate.worked (fate : Fate) : Bool := fate != .refused

/-- The keys of those objects in `tried` that have met `fate`. -/
def withFate (fate : Fate) (tried : List (String × Fate)) : List String :=
  (tried.filter fun e => e.2 == fate).map (·.1)

namespace Store

/-- The call by which the store `s` deletes the object under `key`. -/
def deletion (s : Store) (key : String) : Call :=
  match s.kind with
  | .s3 => .deleteObject s.bucket key
  | .gcs => .deleteBlob s.bucket key

/-- The name that all these calls of the store `s` have. -/
def deletionName (s : Store) : String := (s.deletion "").name

theorem name_deletion (s : Store) (key : String) : (s.deletion key).name = s.deletionName := by
  rw [deletionName, deletion, deletion]
  cases s.kind <;> rfl

/-- What becomes of an object whose deletion meets a fault, or none.  Only a GCS store says of an
object that it is not there. -/
def fate (s : Store) : Option ServiceFault → Fate
  | none => .removed
  | some f => if s.kind = .gcs ∧ f.isNotFound = true then .missing else .refused

/-- What becomes of the objects under `keys` whose deletions are tried in a row in the world `w`. -/
def fates (s : Store) (w : World) (keys : List String) : List (String × Fate) :=
  keys.mapIdx fun i key => (key, s.fate (w.planned s.deletionName i))

/-- Between `r` and `t` some deletions were tried. -/
structure Tried (s : Store) (r t : Run) (tried : List (String × Fate)) : Prop where
  /-- There was one call for each, in this order. -/
  calls : t.world.calls = r.world.calls ++ tried.map fun e => s.deletion e.1
  /-- Each has met the fault that was planned for it. -/
  queue : t.world.queue s.deletionName = (r.world.queue s.deletionName).drop tried.length
  /-- Objects were removed and otherwise left as they were. -/
  objects : t.world.objects = r.world.objects.without (withFate .removed tried)

variable {s : Store} {r t u : Run} {tried more : List (String × Fate)}

theorem Tried.nil (s : Store) (r : Run) : s.Tried r r [] :=
  ⟨(List.append_nil _).symm, rfl, (Objects.without_nil _).symm⟩

theorem Tried.append (h : s.Tried r t tried) (h' : s.Tried t u more) :
    s.Tried r u (tried ++ more) where
  calls := by rw [h'.calls, h.calls, List.map_append, List.append_assoc]
  queue := by rw [h'.queue, h.queue, List.drop_drop, List.length_append]
  objects := by
    rw [h'.objects, h.objects, ← Objects.without_append, withFate, withFate, withFate,
      List.filter_append, List.map_append]

/-- Nothing but the world of a run counts for what was `tried`. -/
theorem Tried.of_world {r' t' : Run} (h : s.Tried r t tried) (hr : r'.world = r.world)
    (ht : t'.world = t.world) : s.Tried r' t' tried :=
  ⟨by rw [ht, hr, h.calls], by rw [ht, hr, h.queue], by rw [ht, hr, h.objects]⟩

theorem Tried.queue_tail {key : String} {fate : Fate} (h : s.Tried r t [(key, fate)]) :
    t.world.queue s.deletionName = (r.world.queue s.deletionName).tail := by
  rw [h.queue, List.length_singleton, List.drop_one]

/-- The fault that is planned first is met first, by the object under `key`. -/
theorem fates_cons (key : String) (rest : List String) {fate : Fate}
    (h : s.Tried r t [(key, fate)]) :
    s.fates r.world (key :: rest) =
      (key, s.fate (r.world.planned s.deletionName 0)) :: s.fates t.world rest := by
  rw [fates, List.mapIdx_cons, fates]
  simp only [World.planned_of_queue_tail h.queue_tail]

/-! ## Deletions -/

theorem queue_ask (s : Store) (key : String) (r : Run) :
    (r.world.ask (s.deletion key)).2.queue s.deletionName =
      (r.world.queue s.deletionName).drop 1 := by
  rw [List.drop_one, ← s.name_deletion key]
  exact World.queue_meet_self _ _

/-- The call that deletes `key`, after which the object is still there. -/
theorem tried_ask (s : Store) (key : String) (r : Run) {fate : Fate} (h : fate ≠ .removed) :
    s.Tried r { r with world := (r.world.ask (s.deletion key)).2 } [(key, fate)] where
  calls := rfl
  queue := s.queue_ask key r
  objects := by
    have hnone : withFate .removed [(key, fate)] = [] := by simp [withFate, h]
    rw [hnone, Objects.without_nil]
    rfl

/-- The call that deletes `key`, after which the object is not there any more. -/
theorem tried_discard (s : Store) (key : String) (r : Run) :
    s.Tried r { r with world := (r.world.ask (s.deletion key)).2.discard key }
      [(key, .removed)] where
  calls := rfl
  queue := s.queue_ask key r
  objects := Objects.erase_eq_without _ _

theorem request_deletion_ends (s : Store) (key : String) (r : Run) :
    (request (s.deletion key)).Ends r
      (fun _ t => r.world.planned s.deletionName 0 = none ∧
        t = { r with world := (r.world.ask (s.deletion key)).2 })
      fun f t => (∃ g, r.world.planned s.deletionName 0 = some g ∧ f = .service g) ∧
        t = { r with world := (r.world.ask (s.deletion key)).2 } := by
  have h := Act.request_ends_planned (s.deletion key) r
  rwa [name_deletion] at h

/-- Between `r` and `t` one deletion was tried, nothing was counted, and the fate that was planned
has come. -/
structure Ended (s : Store) (key : String) (r t : Run) (fate : Fate) : Prop where
  planned : s.fate (r.world.planned s.deletionName 0) = fate
  tried : s.Tried r t [(key, fate)]
  metrics : t.metrics = r.metrics

theorem Ended.noted {key : String} {fate : Fate} (h : s.Ended key r t fate) (ht : t.Noted u) :
    s.Ended key r u fate :=
  ⟨h.planned, h.tried.of_world rfl ht.world, ht.metrics.trans h.metrics⟩

end Store

theorem S3.delete_ended (bucket key : String) (r : Run)
    (h : ∀ f, r.world.planned (Store.deletionName ⟨.s3, bucket⟩) 0 = some f →
      f.isOf .s3 = true) :
    (S3.delete bucket key).Ends r (fun _ t => Store.Ended ⟨.s3, bucket⟩ key r t .removed)
      fun f t => (∃ e, f = .storage e) ∧ Store.Ended ⟨.s3, bucket⟩ key r t .refused := by
  refine guarded_ends .s3 (.delete key)
    (?_ : Act.Ends _ r _ fun f t => (∃ g, f = .service g ∧ g.isOf .s3 = true) ∧
      Store.Ended ⟨.s3, bucket⟩ key r t .refused) ?_
  · refine (Store.request_deletion_ends ⟨.s3, bucket⟩ key r).bind_of ?_ ?_
    · rintro _ t ⟨⟨g, hp, rfl⟩, rfl⟩
      exact ⟨⟨g, rfl, h g hp⟩, by rw [hp]; rfl, Store.tried_ask _ _ _ (by decide), rfl⟩
    · rintro _ t ⟨hp, rfl⟩
      exact Act.ends_of_ok (Act.on_changeWorld _ _)
        ⟨by rw [hp]; rfl, Store.tried_discard ⟨.s3, bucket⟩ key r, rfl⟩
  · rintro _ t ⟨⟨g, rfl, hg⟩, ht⟩
    exact ⟨⟨_, if_pos hg⟩, ht⟩

/-- That nothing is there under `key` is reported like a fault that was planned, and that it is not
there is what the deletion was for. -/
theorem Gcs.remove_ended (bucket key : String) (r : Run)
    (h : ∀ f, r.world.planned (Store.deletionName ⟨.gcs, bucket⟩) 0 = some f →
      f.isOf .gcs = true) :
    (Gcs.remove bucket key).Ends r (fun _ t => Store.Ended ⟨.gcs, bucket⟩ key r t .removed)
      fun f t => ∃ g, f = .service g ∧ g.isOf .gcs = true ∧
        ∃ fate, fate.worked = g.isNotFound ∧ Store.Ended ⟨.gcs, bucket⟩ key r t fate := by
  refine (Store.request_deletion_ends ⟨.gcs, bucket⟩ key r).bind_of ?_ ?_
  · rintro _ t ⟨⟨g, hp, rfl⟩, rfl⟩
    refine ⟨g, rfl, h g hp, Store.fate ⟨.gcs, bucket⟩ (some g), ?_, by rw [hp], ?_, rfl⟩
    · rw [Store.fate]
      cases g.isNotFound <;> rfl
    · refine Store.tried_ask _ _ _ ?_
      rw [Store.fate]
      split <;> decide
  · rintro _ t ⟨hp, rfl⟩
    have hplanned : Store.fate ⟨.gcs, bucket⟩
        (r.world.planned (Store.deletionName ⟨.gcs, bucket⟩) 0) = .removed := by
      rw [hp]
      rfl
    refine Act.Ends.get_bind ?_
    dsimp only
    split
    · exact Act.ends_of_ok (Act.on_changeWorld _ _)
        ⟨hplanned, Store.tried_discard ⟨.gcs, bucket⟩ key r, rfl⟩
    · rename_i hget
      rw [Option.not_isSome_iff_eq_none] at hget
      refine Act.Ends.fail ⟨_, rfl, rfl, .removed, rfl, hplanned, ?_, rfl⟩
      refine ⟨rfl, Store.queue_ask ⟨.gcs, bucket⟩ key r, ?_⟩
      exact (Objects.erase_of_get?_eq_none hget).symm.trans (Objects.erase_eq_without _ _)

theorem Gcs.delete_ended (bucket key : String) (r : Run)
    (h : ∀ f, r.world.planned (Store.deletionName ⟨.gcs, bucket⟩) 0 = some f →
      f.isOf .gcs = true) :
    (Gcs.delete bucket key).Ends r
      (fun _ t => ∃ fate, fate.worked = true ∧ Store.Ended ⟨.gcs, bucket⟩ key r t fate)
      fun f t => (∃ e, f = .storage e) ∧
        ∃ fate, fate.worked = false ∧ Store.Ended ⟨.gcs, bucket⟩ key r t fate := by
  refine guarded_ends .gcs (.delete key)
    (?_ : Act.Ends _ r _ fun f t => (∃ g, f = .service g ∧ g.isOf .gcs = true) ∧
      ∃ fate, fate.worked = false ∧ Store.Ended ⟨.gcs, bucket⟩ key r t fate) ?_
  · refine (Gcs.remove_ended bucket key r h).attempt
      (fun _ t ht => Act.Ends.pure ⟨.removed, rfl, ht⟩) ?_
    rintro _ t ⟨g, rfl, hg, fate, hfate, ht⟩
    dsimp only
    split
    · rename_i hmissing
      obtain ⟨u, hu, htu⟩ := Act.say_noted .debug .storage
        ("GCS object " ++ key ++ " already absent") t
      exact Act.ends_of_ok hu ⟨fate, hfate.trans hmissing, ht.noted htu⟩
    · rename_i hthere
      rw [Bool.not_eq_true] at hthere
      exact Act.Ends.fail ⟨⟨g, rfl, hg⟩, fate, hfate.trans hthere, ht⟩
  · rintro _ t ⟨⟨g, rfl, hg⟩, ht⟩
    exact ⟨⟨_, if_pos hg⟩, ht⟩

/-- **A deletion comes to the fate that was planned for it**, and fails with an error of the backend
just when the fate is `refused`. -/
theorem Store.delete_ended (s : Store) (key : String) (r : Run)
    (h : ∀ f, r.world.planned s.deletionName 0 = some f → f.isOf s.kind = true) :
    (s.delete key).Ends r (fun _ t => ∃ fate, fate.worked = true ∧ s.Ended key r t fate)
      fun f t => (∃ e, f = .storage e) ∧ ∃ fate, fate.worked = false ∧ s.Ended key r t fate := by
  obtain ⟨kind, bucket⟩ := s
  cases kind with
  | s3 =>
    exact (S3.delete_ended bucket key r h).mono (fun _ t ht => ⟨.removed, rfl, ht⟩)
      fun _ t ht => ⟨ht.1, .refused, rfl, ht.2⟩
  | gcs => exact Gcs.delete_ended bucket key r h

/-! ## Deletions in a row -/

variable {s : Store} {r t u : Run}

/-- `deleteOne` is counted by the fate of its object, and is no reason to stop. -/
theorem deleteOne_tried (s : Store) (key : String) (r : Run)
    (h : ∀ f, r.world.planned s.deletionName 0 = some f → f.isOf s.kind = true) :
    (deleteOne s key).Ends r
      (fun worked t => ∃ fate, fate.worked = worked ∧
        s.fate (r.world.planned s.deletionName 0) = fate ∧ s.Tried r t [(key, fate)] ∧
        t.metrics = r.metrics.noteDeletion worked)
      fun _ _ => False := by
  obtain ⟨u, hu, hru⟩ := Act.say_noted .info .retention ("Deleting old backup: " ++ key) r
  have hworld : u.world = r.world := hru.world
  refine Act.Ends.bind_ok hu (Act.Ends.bind_ok (Act.on_count .deletes u) ?_)
  rw [← hworld] at h ⊢
  refine (s.delete_ended key { u with metrics := u.metrics.tick .deletes } h).attempt ?_ ?_
  · rintro _ t ⟨fate, hfate, ht⟩
    refine Act.Ends.bind_ok (Act.on_count .deleted t) (Act.Ends.pure ⟨fate, hfate, ht.planned,
      ht.tried.of_world hworld.symm rfl, ?_⟩)
    rw [ht.metrics, ← hru.metrics]
    rfl
  · rintro _ t ⟨⟨e, rfl⟩, fate, hfate, ht⟩
    obtain ⟨v, hv, htv⟩ := Act.say_noted .error .retention
      ("Failed to delete backup " ++ key ++ " from " ++ e.backend.name ++ ": " ++ e.message) t
    refine Act.Ends.bind_ok hv (Act.Ends.bind_ok (Act.on_count .deleteFailures v)
      (Act.Ends.pure ⟨fate, hfate, ht.planned, ht.tried.of_world hworld.symm htv.world, ?_⟩))
    rw [htv.metrics, ht.metrics, ← hru.metrics]
    rfl

/-- **`deleteAll` tries all deletions, one after the other, whatever has become of those
before.** -/
theorem deleteAll_tried (s : Store) (victims : List Record) (r : Run)
    (h : ∀ i < victims.length, ∀ f, r.world.planned s.deletionName i = some f →
      f.isOf s.kind = true) :
    (deleteAll s victims).Ends r
      (fun n t => ∃ fates, fates = s.fates r.world (victims.map (·.key)) ∧ s.Tried r t fates ∧
        n = fates.countP (·.2.worked) ∧
        t.metrics = r.metrics.noteDeletions (fates.map (·.2.worked)))
      fun _ _ => False := by
  -- each deletion meets the fault that is planned first, and leaves the others to the next ones
  induction victims generalizing r with
  | nil => exact Act.Ends.pure ⟨_, rfl, .nil s r, rfl, rfl⟩
  | cons a rest ih =>
    rw [deleteAll, List.map_cons]
    refine (deleteOne_tried s a.key r (h 0 (by simp))).bind ?_
    rintro worked t ⟨fate, hworked, hplanned, ht, hmetrics⟩
    have hrest : ∀ i < rest.length, ∀ f, t.world.planned s.deletionName i = some f →
        f.isOf s.kind = true := by
      intro i hi f hf
      refine h (i + 1) (by simpa using hi) f ?_
      rwa [← World.planned_of_queue_tail ht.queue_tail]
    refine (ih t hrest).bind ?_
    rintro n u ⟨_, rfl, hu, rfl, hnotes⟩
    refine Act.Ends.pure ⟨_, rfl, ?_⟩
    rw [Store.fates_cons a.key _ ht, hplanned]
    refine ⟨ht.append hu, ?_, ?_⟩
    · rw [List.countP_cons, hworked, Nat.add_comm]
    · rw [hnotes, hmetrics, List.map_cons, hworked]
      rfl

/-! ## What happens before -/

/-- The calls that read a listing. -/
def Call.isListing : Call → Bool
  | .listPage .. => true
  | .listBlobs .. => true
  | _ => false

/-- Between `r` and `t` some listings were read at most.  Nothing was counted, and the faults that
are planned for calls of the name are still planned. -/
structure Run.Browses (name : String) (r t : Run) : Prop where
  idles : r.Idles Call.isListing t
  queue : t.world.queue name = r.world.queue name

instance Run.isFrame_browses (name : String) : Run.IsFrame (Run.Browses name) :=
  ⟨fun r => ⟨Run.IsFrame.refl r, rfl⟩,
    fun h h' => ⟨Run.IsFrame.trans h.idles h'.idles, h'.queue.trans h.queue⟩⟩

section Browses

variable {name : String}

theorem browses_liftM {α : Type} (e : Except Failure α) :
    Act.Keeps (Run.Browses name) (liftM e) := fun r => by
  rw [Act.on_liftM]
  exact Run.IsFrame.refl r

theorem browses_request {c : Call} (hc : c.isListing = true) (hn : name ≠ c.name) :
    (request c).Keeps (Run.Browses name) := fun r => by
  refine ⟨Act.idles_request hc r, ?_⟩
  rw [Act.on_request]
  exact World.queue_meet_of_ne (r.world.record c) hn

theorem S3.browses_readPages (bucket beginning : String) (number : Nat) (cut : List Objects)
    (hn : name ≠ (Call.listPage bucket beginning number).name) :
    (readPages bucket beginning number cut).Keeps (Run.Browses name) := by
  induction cut generalizing number with
  | nil => exact .pure _
  | cons page rest ih =>
    exact .bind (browses_request rfl hn) fun _ => .bind (browses_liftM _) fun _ =>
      .bind (ih (number + 1) hn) fun _ => .pure _

theorem Gcs.browses_readEntries (os : Objects) (hn : name ≠ nextBlobName) :
    (readEntries os).Keeps (Run.Browses name) := by
  have hnext : meetNext.Keeps (Run.Browses name) := fun r => by
    rw [on_meetNext]
    exact ⟨⟨.of_eq rfl, rfl⟩, World.queue_meet_of_ne r.world hn⟩
  induction os with
  | nil => exact .pure _
  | cons o rest ih =>
    exact .bind hnext fun _ => .bind (browses_liftM _) fun _ => .bind ih fun _ => .pure _

end Browses

/-- **To list is no more than to read**, by `Run.Browses`. -/
theorem Store.list_browses (s : Store) (beginning : String) :
    (s.list beginning).Keeps (Run.Browses s.deletionName) := by
  obtain ⟨kind, bucket⟩ := s
  cases kind with
  | s3 =>
    refine Act.Keeps.relaying (Act.Keeps.get_bind fun r => S3.browses_readPages _ _ _ _ ?_)
    show "delete_object" ≠ "list_objects_v2"
    decide
  | gcs =>
    refine Act.Keeps.relaying (.bind (browses_request rfl ?_) fun _ =>
      Act.Keeps.get_bind fun r => Gcs.browses_readEntries _ ?_)
    · show "blob_delete" ≠ "list_blobs"
      decide
    · show "blob_delete" ≠ nextBlobName
      decide

theorem partitionNow_browses (s : Store) (policy : RetentionSettings) (beginning : String) :
    (partitionNow s policy beginning).Keeps (Run.Browses s.deletionName) := by
  have hclock : currentTime.Keeps (Run.Browses s.deletionName) := fun r => by
    rw [Act.on_currentTime]
    exact Run.IsFrame.refl r
  exact .bind (s.list_browses beginning) fun _ => .bind hclock fun _ => browses_liftM _

/-! ## Keys and fates -/

theorem mem_withFate {key : String} {fate : Fate} {tried : List (String × Fate)} :
    key ∈ withFate fate tried ↔ (key, fate) ∈ tried := by
  simp [withFate]

theorem Store.map_fst_fates (s : Store) (w : World) (keys : List String) :
    (s.fates w keys).map (·.1) = keys :=
  List.ext_getElem (by simp [fates]) (by simp [fates])

/-- Only the faults that are planned for deletions count for the `fates`. -/
theorem Store.fates_congr {w v : World} (h : w.queue s.deletionName = v.queue s.deletionName)
    (keys : List String) : s.fates w keys = s.fates v keys := by
  simp only [fates, World.planned, h]

/-- The object under `key` has one fate. -/
theorem fate_unique {key : String} {fate fate' : Fate} {tried : List (String × Fate)}
    (hnodup : (tried.map (·.1)).Nodup) (h : (key, fate) ∈ tried) (h' : (key, fate') ∈ tried) :
    fate = fate' :=
  congrArg Prod.snd (List.inj_on_of_nodup_map hnodup h h' rfl)

theorem count_true_worked (tried : List (String × Fate)) :
    (tried.map (·.2.worked)).count true = tried.countP (·.2.worked) := by
  rw [List.count, List.countP_map]
  exact List.countP_congr fun e _ => by rw [Function.comp, beq_true]

theorem count_false_worked (tried : List (String × Fate)) :
    (tried.map (·.2.worked)).count false = (withFate .refused tried).length := by
  rw [List.count, List.countP_map, withFate, List.length_map, List.countP_eq_length_filter]
  refine congrArg List.length (List.filter_congr fun e _ => ?_)
  rw [Function.comp, beq_false, Fate.worked, bne, Bool.not_not]

/-- What was not refused in `tried` counts as deleted. -/
theorem countP_worked_add (tried : List (String × Fate)) :
    tried.countP (·.2.worked) + (withFate .refused tried).length = tried.length := by
  rw [← count_true_worked, ← count_false_worked, List.count_true_add_count_false, List.length_map]

/-! ## What a cleanup leaves behind -/

namespace Store

/-- **A cleanup in `r` with a plan has come to `t`, and answers `n`.**  What it has done is told by
what becomes of the objects that it was to delete. -/
structure Settles (s : Store) (beginning : String) (plan : Partition) (r : Run) (n : Nat) (t : Run)
    (fates : List (String × Fate)) : Prop where
  /-- Each of them has come to the fate that was planned for its call. -/
  planned : fates = s.fates r.world (plan.toDelete.map (·.key))
  /-- The newest of them is the first. -/
  ordered : plan.toDelete.Pairwise fun a b => b.time.utcWall ≤ a.time.utcWall
  /-- No object is deleted twice. -/
  once : (plan.toDelete.map (·.key)).Nodup
  /-- Behind the calls that read the listing there is one for each of them, in their order, and no
  other call. -/
  calls : ∃ listing, t.world.calls =
      r.world.calls ++ listing ++ plan.toDelete.map (fun a => s.deletion a.key) ∧
    ∀ c ∈ listing, c.isListing = true
  /-- The answer is the number of those that were not refused. -/
  answer : n + (withFate .refused fates).length = plan.toDelete.length
  /-- They are counted as they were tried, refused and deleted, and the cleanup is counted. -/
  metrics : t.metrics = { r.metrics with
    cleanups := r.metrics.cleanups.next
    deletes := r.metrics.deletes.grown plan.toDelete.length
    deleteFailures := r.metrics.deleteFailures.grown (withFate .refused fates).length
    deleted := r.metrics.deleted.grown n }
  /-- Nothing has changed about the objects but that some were removed. -/
  objects : t.world.objects = r.world.objects.without (withFate .removed fates)
  /-- Below the text there are left: what has no time, what is kept, what was refused, and what the
  store takes for missing. -/
  left : ∀ o, o ∈ t.world.objects.below beginning ↔ o ∈ r.world.objects.below beginning ∧
    (o.time = none ∨ o.key ∈ plan.kept.map (·.key) ∨ o.key ∈ withFate .refused fates ∨
      o.key ∈ withFate .missing fates)

variable {policy : RetentionSettings} {beginning : String} {plan : Partition}

/-- With distinct keys, the `fates` of the objects tell which of them are left. -/
theorem Plans.left_iff (h : s.Plans policy beginning r plan) (hd : r.world.objects.Distinct)
    {fates : List (String × Fate)} (hfates : fates.map (·.1) = plan.toDelete.map (·.key))
    (hnodup : (plan.toDelete.map (·.key)).Nodup) {o : StoredObject}
    (ho : o ∈ r.world.objects.below beginning) :
    o.key ∉ withFate .removed fates ↔ o.time = none ∨ o.key ∈ plan.kept.map (·.key) ∨
      o.key ∈ withFate .refused fates ∨ o.key ∈ withFate .missing fates := by
  have hone : ∀ {fate fate'}, (o.key, fate) ∈ fates → (o.key, fate') ∈ fates → fate = fate' :=
    fate_unique (hfates ▸ hnodup)
  have hvictim : ∀ {fate}, (o.key, fate) ∈ fates → ∃ a ∈ plan.toDelete, a.key = o.key := by
    intro fate hmem
    have hkey := List.mem_map_of_mem (f := (·.1)) hmem
    rw [hfates] at hkey
    exact List.mem_map.1 hkey
  simp only [mem_withFate]
  constructor
  · intro hleft
    obtain ⟨records, now, cutoff, hrec, -, -, rfl⟩ := h.records
    rcases htime : o.time with _ | time
    · exact .inl rfl
    -- an object with a time has a record, which is kept or is to be deleted
    obtain ⟨a, ha, hkey⟩ : ∃ a ∈ records, a.key = o.key := by
      obtain ⟨-, rfl⟩ := recordsOf_eq_ok_iff_entries.1 hrec
      have hlisted := (r.world.listing_perm beginning).mem_iff.2 ho
      exact ⟨_, List.mem_filterMap.2 ⟨o, hlisted, by rw [StoredObject.entry?, htime]; rfl⟩, rfl⟩
    rcases List.mem_append.1
        ((kept_append_toDelete_perm records policy.keepLast cutoff).mem_iff.2 ha) with hk | hdel
    · exact .inr (.inl (List.mem_map.2 ⟨a, hk, hkey⟩))
    · have hmem : o.key ∈ fates.map (·.1) := by
        rw [hfates, ← hkey]
        exact List.mem_map_of_mem hdel
      obtain ⟨⟨_, fate⟩, he, rfl⟩ := List.mem_map.1 hmem
      cases fate with
      | removed => exact absurd he hleft
      | missing => exact .inr (.inr (.inr he))
      | refused => exact .inr (.inr (.inl he))
  · intro hleft hremoved
    obtain ⟨a, ha, hkey⟩ := hvictim hremoved
    rcases hleft with htime | hkept | hrefused | hmissing
    · obtain ⟨p, hp, hpkey, -, hptime⟩ := h.mem_toDelete ha
      obtain rfl := hd.eq_of_key hp (List.mem_filter.1 ho).1 (hpkey.trans hkey)
      rw [htime] at hptime
      cases hptime
    · obtain ⟨b, hb, hbkey⟩ := List.mem_map.1 hkept
      refine h.key_notMem hd hb ?_
      rw [hbkey, ← hkey]
      exact List.mem_map_of_mem ha
    · cases hone hremoved hrefused
    · cases hone hremoved hmissing

/-- No object is planned to be deleted twice by `plan`. -/
theorem Plans.nodup_toDelete (h : s.Plans policy beginning r plan)
    (hd : r.world.objects.Distinct) : (plan.toDelete.map (·.key)).Nodup := by
  obtain ⟨records, now, cutoff, hrec, -, -, rfl⟩ := h.records
  have hkeys := nodup_keys_of_recordsOf hrec (World.distinct_listing hd beginning)
  exact (List.nodup_append.1 (nodup_keys_partitionAt hkeys policy.keepLast cutoff)).2.1

/-- What `plan` is to delete stands in the order of the records. -/
theorem Plans.pairwise_toDelete (h : s.Plans policy beginning r plan) :
    plan.toDelete.Pairwise fun a b => b.time.utcWall ≤ a.time.utcWall := by
  obtain ⟨records, now, cutoff, -, -, -, rfl⟩ := h.records
  rw [toDelete_eq_drop]
  exact (pairwise_utcWall_newestFirst records).sublist (List.drop_sublist _ _)

/-- `partitionNow` makes the plan, and nothing but listings was read for it. -/
theorem Plans.partitionNow_on (h : s.Plans policy beginning r plan) :
    ∃ t, (partitionNow s policy beginning).on r = (.ok plan, t) ∧ r.Quiet t ∧
      r.Browses s.deletionName t := by
  have hbrowses := partitionNow_browses s policy beginning r
  rcases he : (partitionNow s policy beginning).on r with ⟨f | plan', t⟩
  · exact absurd h (((partitionNow_ends s policy beginning r).of_error he).2.1 plan)
  · obtain ⟨hplan', hquiet⟩ := (partitionNow_ends s policy beginning r).of_ok he
    obtain rfl := hplan'.unique h
    rw [he] at hbrowses
    exact ⟨t, rfl, hquiet, hbrowses⟩

/-- **Whatever fails, a cleanup with a `plan` settles it**, as long as the store fails in the ways
that its backend counts on. -/
theorem Plans.cleanup_settles (h : s.Plans policy beginning r plan)
    (hd : r.world.objects.Distinct)
    (hf : ∀ i < plan.toDelete.length, ∀ f, r.world.planned s.deletionName i = some f →
      f.isOf s.kind = true) :
    (cleanup s policy beginning).Ends r
      (fun n t => ∃ fates, s.Settles beginning plan r n t fates) fun _ _ => False := by
  rw [cleanup]
  refine Act.Ends.bind_ok (Act.on_count .cleanups r) ?_
  obtain ⟨t, ht, hquiet, hbrowses⟩ :=
    (h.of_world (t := { r with metrics := r.metrics.tick .cleanups }) rfl).partitionNow_on
  refine Act.Ends.bind_ok ht ?_
  obtain ⟨u, hu, htu⟩ := Act.say_noted .debug .retention ("Retention for " ++ beginning ++ ": " ++
    toString plan.records.length ++ " backups, " ++ "keeping " ++ toString plan.keep.length ++
    ", deleting " ++ toString plan.delete.length) t
  refine Act.Ends.bind_ok hu ?_
  have hqueue : u.world.queue s.deletionName = r.world.queue s.deletionName := by
    rw [htu.world, hbrowses.queue]
  refine (deleteAll_tried s plan.toDelete u fun i hi f hp => hf i hi f ?_).bind ?_
  · rwa [World.planned, hqueue] at hp
  rintro n v ⟨fates, hfates, hv, hn, hnotes⟩
  rw [fates_congr hqueue] at hfates
  have hkeys : fates.map (·.1) = plan.toDelete.map (·.key) := by rw [hfates, map_fst_fates]
  have hobjects : v.world.objects = r.world.objects.without (withFate .removed fates) := by
    rw [hv.objects, htu.world, hquiet.objects]
  have hsettles : ∀ v' : Run, v'.world = v.world → v'.metrics = v.metrics →
      s.Settles beginning plan r n v' fates := by
    intro v' hworld hmetrics
    refine ⟨hfates, h.pairwise_toDelete, h.nodup_toDelete hd, ?_, ?_, ?_, ?_, fun o => ?_⟩
    · obtain ⟨listing, hlisting, hreads⟩ := hbrowses.idles.calls
      refine ⟨listing, ?_, hreads⟩
      have hdeletions := congrArg (List.map s.deletion) hkeys
      rw [List.map_map, List.map_map] at hdeletions
      rw [hworld, hv.calls, htu.world, hlisting]
      exact congrArg (_ ++ ·) hdeletions
    · rw [hn, countP_worked_add, ← List.length_map (f := (·.1)), hkeys, List.length_map]
    · rw [hmetrics, hnotes, htu.metrics, hbrowses.idles.metrics, Metrics.noteDeletions_eq,
        count_true_worked, count_false_worked, List.length_map, ← hn,
        ← List.length_map (f := (·.1)), hkeys, List.length_map]
      rfl
    · rw [hworld, hobjects]
    · rw [hworld, hobjects, Objects.below_without, Objects.mem_without]
      exact and_congr_right fun ho => h.left_iff hd hkeys (h.nodup_toDelete hd) ho
  split
  · obtain ⟨w, hw, hvw⟩ := Act.say_noted .info .retention
      ("Deleted " ++ toString n ++ " old backups under " ++ beginning) v
    exact Act.Ends.bind_ok hw (Act.Ends.pure ⟨fates, hsettles w hvw.world hvw.metrics⟩)
  · exact Act.Ends.pure ⟨fates, hsettles v rfl rfl⟩

end Store

/-- **Every backup that is to be deleted is accounted for.**  Where keys are distinct, the listing
can be read, the clock shows a point in time and the period does not reach back too far, there is a
plan.  Whichever deletions the store `s` then refuses, and whichever objects it takes for missing,
all that were to be deleted are tried once, the newest first; answer, counters and objects agree on
what has become of them, by `Store.Settles`. -/
theorem cleanup_accounts (s : Store) (policy : RetentionSettings) (beginning : String) {r : Run}
    {records : List Record} {now : DateTime} (hd : r.world.objects.Distinct)
    (hl : ((s.list beginning).on r).1 = .ok records)
    (hn : DateTime.ofReading r.world.now = .ok now) (hc : ¬policy.ReachesTooFar now) :
    ∃ plan, partition records policy.keepLast policy.keepDuration now = .ok plan ∧
      ((∀ i < plan.toDelete.length, ∀ f, r.world.planned s.deletionName i = some f →
          f.isOf s.kind = true) →
        ∃ n t fates, (cleanup s policy beginning).on r = (.ok n, t) ∧
          s.Settles beginning plan r n t fates) := by
  obtain ⟨cutoff, hcutoff⟩ := exists_cutoffOf hc
  have hoffset : now.offset.isSome := by
    rw [(DateTime.ofReading_eq_ok hn).2.2]
    rfl
  have hpart := partition_of_isSome policy.keepLast policy.keepDuration
    (isSome_offset_of_recordsOf (Store.recordsOf_of_list hl)) hoffset hcutoff
  refine ⟨_, hpart, fun hf => ?_⟩
  have hplans : s.Plans policy beginning r (partitionAt records policy.keepLast cutoff) :=
    ⟨records, now, hl, hn, hpart⟩
  have hends := hplans.cleanup_settles hd hf
  rcases he : (cleanup s policy beginning).on r with ⟨f | n, t⟩
  · exact (hends.of_error he).elim
  · obtain ⟨fates, hsettles⟩ := hends.of_ok he
    exact ⟨n, t, fates, rfl, hsettles⟩

/-- A run with `fourRecords` stored and an object without a time, in which the first deletion is
refused and the third one is answered by saying that there is no such object. -/
def strippedRun : Run :=
  { world := { objects := fourRecords.map (fun a => backupObject a.key .empty a.time) ++
                 [⟨"e", .empty, none, none⟩]
               faults := [("blob_delete", some (.api "backend error")), ("blob_delete", none),
                 ("blob_delete", some (.status ServiceFault.notFoundStatus "gone"))] } }

/-- Of three backups that `cleanup` is to delete in `strippedRun`, one is refused. -/
theorem cleanup_accounts_strippedRun :
    ∃ t, (cleanup ⟨.gcs, "bucket"⟩ ⟨1, none⟩ "").on strippedRun = (.ok 2, t) ∧
      (∃ listing, t.world.calls = listing ++
        [.deleteBlob "bucket" "a", .deleteBlob "bucket" "d", .deleteBlob "bucket" "c"]) ∧
      t.metrics.deletes = .count 3 ∧ t.metrics.deleteFailures = .count 1 ∧
      t.metrics.deleted = .count 2 ∧ t.metrics.cleanups = .count 1 ∧
      t.world.objects.map (·.key) = ["a", "b", "c", "e"] := by
  have hdistinct : strippedRun.world.objects.Distinct := by
    rw [Objects.Distinct]
    decide
  have hlist : ((Store.list ⟨.gcs, "bucket"⟩ "").on strippedRun).1 = .ok fourRecords := by
    rw [Store.list_fst]
    rfl
  have hnear : ¬RetentionSettings.ReachesTooFar ⟨1, none⟩ ⟨63840916805000000, some 0⟩ := by
    rintro ⟨d, hd, -⟩
    cases hd
  obtain ⟨plan, hplan, hall⟩ :=
    cleanup_accounts ⟨.gcs, "bucket"⟩ ⟨1, none⟩ "" hdistinct hlist rfl hnear
  obtain rfl : plan = partitionAt fourRecords 1 none := (Except.ok.inj hplan).symm
  have hkeys : (partitionAt fourRecords 1 none).toDelete.map (·.key) = ["a", "d", "c"] := by
    rw [toDelete_eq_drop, List.map_drop, newestFirst_fourRecords]
    rfl
  have hlength : (partitionAt fourRecords 1 none).toDelete.length = 3 := by
    rw [← List.length_map (f := (·.key)), hkeys]
    rfl
  have hexpected : ∀ i < 3, ∀ f, strippedRun.world.planned (Store.deletionName ⟨.gcs, "bucket"⟩) i =
      some f → f.isOf .gcs = true := by
    intro i hi f hf
    rcases i with _ | _ | _ | i
    · cases hf
      rfl
    · cases hf
    · cases hf
      rfl
    · omega
  obtain ⟨n, t, fates, hon, hsettles⟩ := hall (hlength ▸ hexpected)
  have hfates : fates = [("a", .refused), ("d", .removed), ("c", .missing)] := by
    rw [hsettles.planned, hkeys]
    rfl
  have hanswer := hsettles.answer
  have hmetrics := hsettles.metrics
  have hobjects := hsettles.objects
  obtain ⟨listing, hcalls, -⟩ := hsettles.calls
  have hdeletions : (partitionAt fourRecords 1 none).toDelete.map
      (fun a => Store.deletion ⟨.gcs, "bucket"⟩ a.key) = [.deleteBlob "bucket" "a",
        .deleteBlob "bucket" "d", .deleteBlob "bucket" "c"] := by
    have hmapped := congrArg (List.map (Store.deletion ⟨.gcs, "bucket"⟩)) hkeys
    rwa [List.map_map] at hmapped
  have hnone : strippedRun.world.calls = [] := rfl
  rw [hnone, List.nil_append, hdeletions] at hcalls
  rw [hfates, hlength] at hanswer hmetrics
  rw [hfates] at hobjects
  obtain rfl : n = 2 := Nat.add_right_cancel hanswer
  refine ⟨t, hon, ⟨listing, hcalls⟩, ?_⟩
  rw [hmetrics, hobjects]
  exact ⟨Tally.grown_count 0 3, Tally.grown_count 0 1, Tally.grown_count 0 2, rfl, by decide⟩

end DumpKeeper
