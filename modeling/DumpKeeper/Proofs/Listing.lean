import DumpKeeper.Proofs.Calendar
import DumpKeeper.Proofs.Calls
import DumpKeeper.Proofs.Loading
import DumpKeeper.Proofs.Stumbling

/-!
# What a listing gives

A listing is fetched piece by piece, in pages or entry by entry, and each fetch may fail.  What the
listing gives is known from its fetches: the entries of all of them, one for each object that has a
time, or the first thing that goes wrong.

* `StoredObject.entry?` — the entry of an object; `recordsOf_eq_ok_iff_entries` says when objects
  have entries.
* `Fetch`, `Fetch.gather` — a fetch, and what becomes of fetches one after the other.
* `Store.fetches`, `Store.list_fst` — the fetches of a listing, and that a listing is made of them.
* `Store.list_exact` — a listing is complete or fails; how it is cut makes no difference.
* `Store.list_beyondDates` — an object whose time the UTC clock cannot show.
-/

set_option autoImplicit false

namespace DumpKeeper

/-! ## Entries -/

/-- The record of the object `o`, if the store reports a time for it: its key, the second of UTC in
which it was changed, and its size, where one that is not reported counts as zero. -/
def StoredObject.entry? (o : StoredObject) : Option Record :=
  o.time.map fun t => ⟨o.key, t.atSecond, o.size.getD 0⟩

/-- The UTC clock can show all the times that are reported of `os`. -/
def Objects.Dated (os : Objects) : Prop := ∀ o ∈ os, ∀ t ∈ o.time, t.IsDated

instance (os : Objects) : Decidable os.Dated :=
  inferInstanceAs (Decidable (∀ o ∈ os, ∀ t ∈ o.time, t.IsDated))

theorem Objects.datable_iff_dated {os : Objects} : os.Datable ↔ os.Dated := by
  simp only [Datable, Dated, Option.mem_def, DateTime.toUtcSeconds?_eq_some_iff, exists_and_left,
    exists_eq, and_true]

theorem StoredObject.record?_eq_entry? {o : StoredObject} (h : ∀ t ∈ o.time, t.IsDated) :
    o.record? = o.entry? := by
  rw [record?, entry?]
  rcases ht : o.time with _ | t
  · rfl
  · simp [DateTime.toUtcSeconds?_eq_some_iff.2 ⟨h t ht, rfl⟩]

/-- **Objects have an `entry?` each, if they have a time**, and `recordsOf` lists them unless the
UTC clock cannot show one. -/
theorem recordsOf_eq_ok_iff_entries {os : Objects} {records : List Record} :
    recordsOf os = .ok records ↔ os.Dated ∧ records = os.filterMap StoredObject.entry? := by
  have hentries : os.Dated →
      os.filterMap StoredObject.record? = os.filterMap StoredObject.entry? := fun h =>
    List.filterMap_congr fun o ho => StoredObject.record?_eq_entry? (h o ho)
  constructor
  · intro h
    have hdated := Objects.datable_iff_dated.1 (recordsOf_eq_ok_iff.1 ⟨records, h⟩)
    exact ⟨hdated, (recordsOf_eq_ok h).trans (hentries hdated)⟩
  · rintro ⟨hdated, rfl⟩
    rw [recordsOf_of_datable (Objects.datable_iff_dated.2 hdated), hentries hdated]

/-! ## Pages -/

/-- What fits on a page of `size` items is on one page. -/
theorem pages_of_le {α : Type} {size : Nat} {items : List α} (h : items.length ≤ size) :
    pages size items = [items] := by
  rw [pages]
  split
  · rfl
  · rename_i hdrop
    rw [List.drop_eq_nil_of_le h] at hdrop
    cases hdrop

/-- A page of `size` items is full before there is another one. -/
theorem pages_of_lt {α : Type} {size : Nat} {items : List α} (hsize : 0 < size)
    (h : size < items.length) :
    pages size items = items.take size :: pages size (items.drop size) := by
  rw [pages]
  split
  · rename_i hdrop
    exact absurd (List.drop_eq_nil_iff.1 hdrop) (by omega)
  · rename_i hdrop
    rw [if_neg (by omega), hdrop]

/-! ## Fetches -/

/-- A fetch of a listing: the `fault` that is planned for it, and the `objects` that it brings if
there is none. -/
structure Fetch where
  fault : Option ServiceFault
  objects : Objects

namespace Fetch

/-- The records that fetches bring one after the other, up to the first that goes wrong. -/
def gather : List Fetch → Except Failure (List Record)
  | [] => .ok []
  | p :: behind =>
    match p.fault with
    | some f => .error (.service f)
    | none => do
      let records ← recordsOf p.objects
      let more ← gather behind
      return records ++ more

variable {p : Fetch} {before behind fetches : List Fetch} {records : List Record}

/-- The objects of all fetches, in order. -/
def all (fetches : List Fetch) : Objects := fetches.flatMap (·.objects)

theorem all_cons (p : Fetch) (behind : List Fetch) : all (p :: behind) = p.objects ++ all behind :=
  List.flatMap_cons

theorem gather_cons_of_fault {f : ServiceFault} (h : p.fault = some f) :
    gather (p :: behind) = .error (.service f) := by
  rw [gather, h]

theorem gather_cons_of_none (h : p.fault = none) :
    gather (p :: behind) = do
      let records ← recordsOf p.objects
      let more ← gather behind
      return records ++ more := by
  rw [gather, h]

/-- Fetches without a `fault` bring all records. -/
theorem gather_eq_recordsOf (h : ∀ p ∈ fetches, p.fault = none) :
    gather fetches = recordsOf (all fetches) := by
  induction fetches with
  | nil => rfl
  | cons p behind ih =>
    obtain ⟨hp, hbehind⟩ := List.forall_mem_cons.1 h
    rw [gather_cons_of_none hp, ih hbehind, all_cons, recordsOf_append]

/-- **All or nothing.**  `gather` has records only if no fetch goes wrong, and then it has those of
all objects. -/
theorem gather_eq_ok_iff :
    gather fetches = .ok records ↔
      (∀ p ∈ fetches, p.fault = none) ∧ recordsOf (all fetches) = .ok records := by
  refine ⟨fun h => ?_, fun h => (gather_eq_recordsOf h.1).trans h.2⟩
  have hnone : ∀ p ∈ fetches, p.fault = none := by
    induction fetches generalizing records with
    | nil => exact fun _ hp => absurd hp List.not_mem_nil
    | cons p behind ih =>
      rcases hp : p.fault with _ | f
      · rw [gather_cons_of_none hp] at h
        obtain ⟨_, -, hmore⟩ := bind_eq_ok_iff.1 h
        obtain ⟨_, hbehind, -⟩ := bind_eq_ok_iff.1 hmore
        exact List.forall_mem_cons.2 ⟨hp, ih hbehind⟩
      · rw [gather_cons_of_fault hp] at h
        cases h
  exact ⟨hnone, (gather_eq_recordsOf hnone).symm.trans h⟩

/-- A fetch `p` that fails ends the listing with its fault, whatever was brought `before` it. -/
theorem gather_append_cons {f : ServiceFault} (hbefore : ∀ q ∈ before, q.fault = none)
    (hdated : (all before).Dated) (hp : p.fault = some f) :
    gather (before ++ p :: behind) = .error (.service f) := by
  induction before with
  | nil => exact gather_cons_of_fault hp
  | cons q before ih =>
    obtain ⟨hq, hrest⟩ := List.forall_mem_cons.1 hbefore
    rw [all_cons] at hdated
    have hrecords : recordsOf q.objects = .ok (q.objects.filterMap StoredObject.entry?) :=
      recordsOf_eq_ok_iff_entries.2 ⟨fun o ho => hdated o (List.mem_append_left _ ho), rfl⟩
    rw [List.cons_append, gather_cons_of_none hq, hrecords,
      ih hrest fun o ho => hdated o (List.mem_append_right _ ho)]
    rfl

/-- One fetch, `ask`, and then the others, `rest`, in the world that it leaves. -/
theorem on_fetch {ask : Act Unit} {rest : Act (List Record)} {w : World} {name : String}
    {objects : Objects} {r : Run}
    (hask : ask.on r =
      ((w.meet name).1.mapError Failure.service, { r with world := (w.meet name).2 }))
    (hrest : (rest.on { r with world := (w.meet name).2 }).1 = gather behind) :
    (Act.on (do
      ask
      let records ← liftM (recordsOf objects)
      let more ← rest
      return records ++ more) r).1 = gather (⟨w.planned name 0, objects⟩ :: behind) := by
  rcases hp : w.planned name 0 with _ | f
  · rw [World.meet_fst_of_not_planned hp] at hask
    rw [Act.on_bind_ok hask, Act.on_bind, Act.on_liftM, gather_cons_of_none rfl]
    rcases recordsOf objects with e | records
    · rfl
    · dsimp only
      rw [Act.on_bind]
      rcases hr : rest.on { r with world := (w.meet name).2 } with ⟨e | more, t⟩
      · rw [← hrest, hr]
        rfl
      · rw [← hrest, hr]
        rfl
  · rw [World.meet_fst_of_planned hp] at hask
    rw [Act.on_bind_error hask, gather_cons_of_fault rfl]

end Fetch

/-! ## Listings -/

/-- The fetches of a listing that the store `s` makes in the world `w`.  An S3 store sends pages;
from a GCS store, the entries come one by one behind a call that brings none. -/
def Store.fetches (s : Store) (beginning : String) (w : World) : List Fetch :=
  match s.kind with
  | .s3 => (pages w.pageSize (w.listing beginning)).mapIdx fun i page =>
      ⟨w.planned (Call.listPage s.bucket beginning (i + 1)).name i, page⟩
  | .gcs => ⟨w.planned (Call.listBlobs s.bucket beginning).name 0, []⟩ ::
      (w.listing beginning).mapIdx fun i o => ⟨w.planned nextBlobName i, [o]⟩

/-- After a call, the faults that are `planned` move up by one. -/
theorem World.planned_meet (w : World) (name : String) (i : Nat) :
    (w.meet name).2.planned name i = w.planned name (i + 1) :=
  planned_of_queue_tail (queue_meet_self w name) i

theorem World.planned_meet_of_ne (w : World) {name other : String} (h : other ≠ name) (i : Nat) :
    (w.meet name).2.planned other i = w.planned other i := by
  rw [planned, queue_meet_of_ne w h, planned]

/-- Pages are fetched with one call each, by `readPages`. -/
theorem S3.readPages_fst (bucket beginning : String) (number : Nat) (cut : List Objects) (r : Run) :
    ((readPages bucket beginning number cut).on r).1 = Fetch.gather (cut.mapIdx fun i page =>
      ⟨r.world.planned (Call.listPage bucket beginning (i + 1)).name i, page⟩) := by
  induction cut generalizing number r with
  | nil => rfl
  | cons page rest ih =>
    rw [readPages, List.mapIdx_cons]
    refine Fetch.on_fetch (w := r.world.record (.listPage bucket beginning number))
      (Act.on_request _ r) ?_
    rw [ih]
    exact congrArg (fun g => Fetch.gather (rest.mapIdx g))
      (funext fun i => funext fun page => congrArg (Fetch.mk · page) (World.planned_meet _ _ i))

/-- Entries are fetched one by one, by `readEntries`. -/
theorem Gcs.readEntries_fst (os : Objects) (r : Run) :
    ((readEntries os).on r).1 =
      Fetch.gather (os.mapIdx fun i o => ⟨r.world.planned nextBlobName i, [o]⟩) := by
  induction os generalizing r with
  | nil => rfl
  | cons o rest ih =>
    rw [readEntries_cons, List.mapIdx_cons]
    refine Fetch.on_fetch (w := r.world) (on_meetNext r) ?_
    rw [ih]
    exact congrArg (fun g => Fetch.gather (rest.mapIdx g))
      (funext fun i => funext fun o => congrArg (Fetch.mk · [o]) (World.planned_meet _ _ i))

/-- **A listing is made of its `fetches`**, and reports what goes wrong as its backend does. -/
theorem Store.list_fst (s : Store) (beginning : String) (r : Run) :
    ((s.list beginning).on r).1 = (Fetch.gather (s.fetches beginning r.world)).mapError
      (Failure.reported s.kind (.list beginning)) := by
  rw [list, fetches]
  cases s.kind with
  | s3 =>
    dsimp only
    rw [S3.list, on_guarded, Act.on_get_bind, S3.readPages_fst]
  | gcs =>
    dsimp only
    rw [Gcs.list, on_guarded]
    -- the call in front of the entries is a fetch that brings no objects
    have hnone : ∀ t : Act (List Record), (do
        let records ← (liftM (recordsOf []) : Act (List Record))
        let more ← t
        return records ++ more) = t := by
      intro t
      exact (pure_bind _ _).trans (bind_pure t)
    rw [← hnone (get >>= _)]
    refine congrArg (Except.mapError _) (Fetch.on_fetch
      (w := r.world.record (.listBlobs s.bucket beginning)) (Act.on_request _ r) ?_)
    have hname : nextBlobName ≠ (Call.listBlobs s.bucket beginning).name := by
      rw [Call.name]
      decide
    rw [Act.on_get_bind, Gcs.readEntries_fst]
    exact congrArg (fun g => Fetch.gather (List.mapIdx g (r.world.listing beginning)))
      (funext fun i => funext fun o => congrArg (Fetch.mk · [o])
        (World.planned_meet_of_ne _ hname i))

/-! ### The objects of all fetches -/

theorem Fetch.all_mapIdx {α : Type} (fetch : Nat → α → Fetch) (brings : α → Objects)
    (h : ∀ i a, (fetch i a).objects = brings a) (l : List α) :
    Fetch.all (l.mapIdx fetch) = l.flatMap brings := by
  induction l generalizing fetch with
  | nil => rfl
  | cons a l ih =>
    rw [List.mapIdx_cons, all_cons, h, ih (fun i => fetch (i + 1)) fun i => h (i + 1),
      List.flatMap_cons]

/-- Together the `fetches` bring all objects that begin with `beginning`, each of them once and in
order, and this makes no difference between the kinds of stores or between sizes of pages. -/
theorem Store.all_fetches (s : Store) (beginning : String) (w : World) :
    Fetch.all (s.fetches beginning w) = w.listing beginning := by
  rw [fetches]
  cases s.kind with
  | s3 =>
    dsimp only
    rw [Fetch.all_mapIdx _ id fun _ _ => rfl, List.flatMap_id, flatten_pages]
  | gcs =>
    dsimp only
    rw [Fetch.all_cons, List.nil_append, Fetch.all_mapIdx _ (fun o => [o]) fun _ _ => rfl]
    exact List.flatMap_singleton' _

theorem Store.fetches_of_calm (s : Store) (beginning : String) {w : World} (h : w.faults = []) :
    ∀ p ∈ s.fetches beginning w, p.fault = none := by
  intro p hp
  rw [fetches] at hp
  cases hkind : s.kind with
  | s3 =>
    rw [hkind] at hp
    obtain ⟨i, hi, rfl⟩ := List.mem_mapIdx.1 hp
    exact World.planned_of_calm h _ _
  | gcs =>
    rw [hkind] at hp
    rcases List.mem_cons.1 hp with rfl | hp
    · exact World.planned_of_calm h _ _
    · obtain ⟨i, hi, rfl⟩ := List.mem_mapIdx.1 hp
      exact World.planned_of_calm h _ _

/-- **A listing is complete or fails.**  `s.list beginning` gives records just when no fetch fails
and the UTC clock can show all times, and then exactly one for each object below `beginning` that
has a time, in the order of the store; the size of the pages and the kind of the store make no
difference.  A fetch that fails, however many came before it, fails the listing with an error of the
backend. -/
theorem Store.list_exact (s : Store) (beginning : String) (r : Run) :
    (∀ records, ((s.list beginning).on r).1 = .ok records ↔
      (∀ p ∈ s.fetches beginning r.world, p.fault = none) ∧
      (r.world.listing beginning).Dated ∧
      records = (r.world.listing beginning).filterMap StoredObject.entry?) ∧
    ∀ before p behind f, s.fetches beginning r.world = before ++ p :: behind →
      (∀ q ∈ before, q.fault = none) → (Fetch.all before).Dated → p.fault = some f →
      f.isOf s.kind = true →
        ((s.list beginning).on r).1 = .error (.storage ⟨s.kind, .list beginning, f⟩) := by
  constructor
  · intro records
    rw [list_fst, mapError_eq_ok_iff, Fetch.gather_eq_ok_iff, all_fetches,
      recordsOf_eq_ok_iff_entries]
  · intro before p behind f hfetches hbefore hdated hp hf
    rw [list_fst, hfetches, Fetch.gather_append_cons hbefore hdated hp]
    exact congrArg Except.error (if_pos hf)

/-- Four objects, three of them below `a_`: one was changed at an unknown offset within a second, of
one the time is not reported, and one was changed by a clock ahead of UTC and has no size. -/
def fourObjects : Objects :=
  [⟨"a_1", .empty, some 3, some ⟨63840916800999999, none⟩⟩,
   ⟨"b_1", .empty, some 5, some ⟨63840916800000000, some 0⟩⟩,
   ⟨"a_2", .empty, some 7, none⟩,
   ⟨"a_3", .empty, none, some ⟨63840920400000000, some 3600000000⟩⟩]

/-- A run with `fourObjects`, in pages of two. -/
def pagedRun (faults : List (String × Option ServiceFault)) : Run :=
  { world := { objects := fourObjects, pageSize := 2, faults := faults } }

/-- Both kinds of stores give the same two entries; and if the second page does not come, there are
none of the first. -/
theorem list_exact_fourObjects :
    ((Store.list ⟨.s3, "bucket"⟩ "a_").on (pagedRun [])).1 =
        .ok [⟨"a_1", ⟨63840916800000000, some 0⟩, 3⟩, ⟨"a_3", ⟨63840916800000000, some 0⟩, 0⟩] ∧
      ((Store.list ⟨.gcs, "bucket"⟩ "a_").on (pagedRun [])).1 =
        .ok [⟨"a_1", ⟨63840916800000000, some 0⟩, 3⟩, ⟨"a_3", ⟨63840916800000000, some 0⟩, 0⟩] ∧
      ((Store.list ⟨.s3, "bucket"⟩ "a_").on (pagedRun [("list_objects_v2", none),
          ("list_objects_v2", some (.unreachable "timeout"))])).1 =
        .error (.storage ⟨.s3, .list "a_", .unreachable "timeout"⟩) := by
  have hdated : (fourObjects.below "a_").Dated := by decide
  refine ⟨?_, ?_, ?_⟩
  · exact ((Store.list_exact ⟨.s3, "bucket"⟩ "a_" (pagedRun [])).1 _).2
      ⟨Store.fetches_of_calm _ _ rfl, hdated, by decide⟩
  · exact ((Store.list_exact ⟨.gcs, "bucket"⟩ "a_" (pagedRun [])).1 _).2
      ⟨Store.fetches_of_calm _ _ rfl, hdated, by decide⟩
  · have hpages : pages 2 (fourObjects.below "a_") =
        [(fourObjects.below "a_").take 2, (fourObjects.below "a_").drop 2] := by
      rw [pages_of_lt (by decide) (by decide), pages_of_le (by decide)]
    refine (Store.list_exact ⟨.s3, "bucket"⟩ "a_" _).2
      [⟨none, (fourObjects.below "a_").take 2⟩]
      ⟨some (.unreachable "timeout"), (fourObjects.below "a_").drop 2⟩ [] _ ?_ (by simp) ?_ rfl rfl
    · exact congrArg (List.mapIdx _) hpages
    · exact fun o ho => hdated o (List.mem_of_mem_take (by simpa [Fetch.all] using ho))

/-! ### Times that the UTC clock cannot show -/

/-- Where no call fails, a listing fails with what keeps the objects from having records, by
`recordsOf`. -/
theorem Store.list_fst_of_calm (s : Store) (beginning : String) {r : Run}
    (h : r.world.faults = []) :
    ((s.list beginning).on r).1 = (recordsOf (r.world.listing beginning)).mapError
      (Failure.reported s.kind (.list beginning)) := by
  rw [list_fst, Fetch.gather_eq_recordsOf (s.fetches_of_calm beginning h), all_fetches]

/-- A run with a backup that a clock an hour behind UTC dates half an hour before the end of the
year 9999. -/
def lateRun : Run :=
  { world := { objects := [⟨"redis-vault/cache-0_a", .empty, some 3,
      some ⟨315537895800000000, some (-3600000000)⟩⟩] } }

/-- The UTC clock has no such second, and so there is no listing although no call fails: the entry
would be dated half an hour into the year 10000. -/
theorem list_beyondDates :
    lateRun.world.faults = [] ∧
      (lateRun.world.listing "redis-vault/cache-0_").filterMap StoredObject.entry? =
        [⟨"redis-vault/cache-0_a", ⟨DateTime.wallLimit + 1800000000, some 0⟩, 3⟩] ∧
      ((Store.list ⟨.s3, "tb"⟩ "redis-vault/cache-0_").on lateRun).1 =
        .error (.time .beyondDates) ∧
      ((Store.list ⟨.gcs, "tb"⟩ "redis-vault/cache-0_").on lateRun).1 =
        .error (.time .beyondDates) := by
  have hnone : recordsOf (lateRun.world.listing "redis-vault/cache-0_") =
      .error (.time .beyondDates) := rfl
  refine ⟨rfl, by decide, ?_, ?_⟩
  · rw [Store.list_fst_of_calm _ _ rfl, hnone]
    rfl
  · rw [Store.list_fst_of_calm _ _ rfl, hnone]
    rfl

end DumpKeeper
