import DumpKeeper.Proofs.Cycle

/-!
# What a cycle may lose

A deletion cannot be taken back, so it matters what a cycle can delete when calls fail on the way.
The answer is the same for every pattern of failures, and whether the cycle fails or not: besides
storing the dump, it removes some of the objects that the retention policy wants removed, and it
does that only if the dump was stored and the whole listing could be read.

* `World.Sound` — a bucket has one object to a key, and parts are not empty.
* `Executor.Loses` — what is missing after a cycle, and why.
* `objects_runCycle` — what becomes of the objects, whichever calls fail.
-/

set_option autoImplicit false

namespace DumpKeeper

/-- What is true of every store, and so of that of the world `w`: a key has one object, and uploads
are cut into parts of some size. -/
structure World.Sound (w : World) : Prop where
  /-- A key has one object. -/
  distinct : w.objects.Distinct
  /-- A part has a size. -/
  chunk : 0 < w.limits.chunk

theorem sound_holding {os : Objects} (h : os.Distinct) (content : ByteArray) (changed : FileTime)
    (now : Int) : (Run.holding content changed now os).world.Sound :=
  ⟨h, show (0 : Int) < 10485760 by decide⟩

/-- Between the end of the upload, in `t`, and the end of the cycle, in `s`, the objects of the keys
`gone` were removed. -/
structure Executor.Loses (x : Executor) (t s : Run) (gone : List String) : Prop where
  /-- Nothing else has changed. -/
  objects : s.world.objects = t.world.objects.without gone
  /-- They are some of those to delete, by the partition of the listing at the time of the clock. -/
  planned : gone ≠ [] → ∃ plan, x.Plans t plan ∧ gone ⊆ plan.toDelete.map (·.key)
  /-- Where a page of the listing fails, there are none. -/
  listed : ∀ f, ((x.store.list x.nodeFolder).on t).1 = .error f → gone = []
  /-- No record that is to be kept is among them. -/
  kept : ∀ plan, x.Plans t plan → ∀ a ∈ plan.kept, a.key ∉ gone
  /-- They are objects of the node, and have times. -/
  own : ∀ o ∈ t.world.objects, o.key ∈ gone →
    o.time.isSome = true ∧ beginsWith x.nodeFolder o.key = true

variable {x : Executor} {r s t : Run}

/-- What is pruned, by `Prunes`, is lost for a reason. -/
theorem Executor.Prunes.loses (h : x.Prunes t s) (hd : t.world.objects.Distinct) :
    ∃ gone, x.Loses t s gone := by
  rcases h with h | ⟨plan, hplan, gone, hgone, hleaves, -⟩
  · refine ⟨[], ⟨?_, fun h => absurd rfl h, fun _ _ => rfl, fun _ _ _ _ => List.not_mem_nil,
      fun _ _ h => absurd h List.not_mem_nil⟩⟩
    rw [h.objects, Objects.without_nil]
  refine ⟨gone, hleaves.objects, fun _ => ⟨plan, hplan, hgone⟩, fun f hf => ?_,
    fun plan' hplan' a ha hk => ?_, fun o ho hk => ?_⟩
  · obtain ⟨_, _, hl, -⟩ := hplan
    rw [hf] at hl
    cases hl
  · obtain rfl := hplan.unique hplan'
    exact hplan.key_notMem hd ha (hgone hk)
  · obtain ⟨a, ha, hak⟩ := List.mem_map.1 (hgone hk)
    obtain ⟨p, hp, hpk, hb, ht⟩ := hplan.mem_toDelete ha
    obtain rfl := hd.eq_of_key ho hp (hak.symm.trans hpk.symm)
    rw [← hpk] at hb
    exact ⟨ht, hb⟩

theorem Run.Leaves.sound {os : Objects} (h : r.Leaves s os) (hr : r.world.Sound)
    (hd : os.Distinct) : s.world.Sound :=
  ⟨by rw [h.objects]; exact hd, by rw [h.limits]; exact hr.chunk⟩

theorem Executor.Prunes.sound (h : x.Prunes t s) (ht : t.world.Sound) : s.world.Sound := by
  rcases h with h | ⟨_, _, _, _, hleaves, -⟩
  · exact h.sound ht ht.distinct
  · exact hleaves.sound ht (ht.distinct.sublist List.filter_sublist)

/-- `runCycle` leaves a store behind that is one: `World.Sound`. -/
theorem sound_runCycle (x : Executor) (h : r.world.Sound) :
    ((runCycle x).on r).2.world.Sound := by
  rcases hup : uploaded? x r with _ | ⟨key, content, t⟩
  · exact (quiet_runCycle h.chunk hup).sound h h.distinct
  · obtain ⟨-, now, -, ht⟩ := stores_of_uploaded? h.chunk hup
    exact (prunes_runCycle hup).sound (ht.sound h (h.distinct.put _))

/-- What is pruned are objects of the node, so all that is `outside` its folder stays. -/
theorem Executor.Prunes.outside (h : x.Prunes t s) :
    s.world.objects.outside x.nodeFolder = t.world.objects.outside x.nodeFolder := by
  rcases h with h | ⟨plan, hplan, gone, hgone, hleaves, -⟩
  · rw [h.objects]
  · rw [hleaves.objects]
    refine Objects.outside_without fun key hkey => ?_
    obtain ⟨a, ha, rfl⟩ := List.mem_map.1 (hgone hkey)
    obtain ⟨_, -, -, hb, -⟩ := hplan.mem_toDelete ha
    exact hb

/-- **A cycle of `x` changes nothing outside `x.nodeFolder`**, whichever calls fail. -/
theorem outside_runCycle (x : Executor) (hc : 0 < r.world.limits.chunk) :
    ((runCycle x).on r).2.world.objects.outside x.nodeFolder =
      r.world.objects.outside x.nodeFolder := by
  rcases hup : uploaded? x r with _ | ⟨key, content, t⟩
  · rw [(quiet_runCycle hc hup).objects]
  · obtain ⟨hpick, now, -, ht⟩ := stores_of_uploaded? hc hup
    rw [(prunes_runCycle hup).outside, ht.objects]
    exact Objects.outside_put _ hpick.2.beginsWith

/-- **What becomes of the objects in a cycle of `x`, whichever calls fail.**  If the cycle comes to
no upload, or the upload fails, they stay as they are.  Otherwise the whole dump is stored under its
key, and then nothing is lost but what the retention policy gives up. -/
theorem objects_runCycle (x : Executor) (r : Run) (h : r.world.Sound) :
    (uploaded? x r = none → ((runCycle x).on r).2.world.objects = r.world.objects) ∧
    ∀ key content t, uploaded? x r = some (key, content, t) →
      x.HasDump r.world key content ∧
      (∃ now, DateTime.ofReading r.world.now = .ok now ∧
        t.world.objects = Objects.put (backupObject key content now) r.world.objects) ∧
      ∃ gone, x.Loses t ((runCycle x).on r).2 gone := by
  constructor
  · exact fun hup => (quiet_runCycle h.chunk hup).objects
  · intro key content t hup
    obtain ⟨hpick, now, hn, ht⟩ := stores_of_uploaded? h.chunk hup
    have hd : t.world.objects.Distinct := by
      rw [ht.objects]
      exact h.distinct.put _
    exact ⟨hpick.2, ⟨now, hn, ht.objects⟩, (prunes_runCycle hup).loses hd⟩

/-- An object of somebody else. -/
def strangeObject : StoredObject := backupObject "b" (.mk #[0]) ⟨63840916800000000, some 0⟩

/-- A run with a `strangeObject` and a dump, in which a deletion is going to fail. -/
def faultyRun : Run :=
  { world := {
      objects := [strangeObject]
      faults := [("delete_object", some (.rejected "AccessDenied" none "DeleteObject"))]
      files := .holding (.mk #[1]) ⟨1705320000, 0⟩ } }

/-- The object of somebody else is not lost, even if no backup is to be kept. -/
theorem strangeObject_mem_runCycle :
    faultyRun.world.Sound ∧
      strangeObject ∈ ((runCycle (.keeping "backups" "a" 0)).on faultyRun).2.world.objects := by
  have hsound : faultyRun.world.Sound := ⟨Objects.distinct_singleton _, by decide⟩
  have hother :
      beginsWith (Executor.keeping "backups" "a" 0).nodeFolder strangeObject.key = false := by
    decide +kernel
  refine ⟨hsound, ?_⟩
  obtain ⟨hnone, hsome⟩ := objects_runCycle (.keeping "backups" "a" 0) faultyRun hsound
  rcases hup : uploaded? (.keeping "backups" "a" 0) faultyRun with _ | ⟨key, content, t⟩
  · rw [hnone hup]
    exact List.mem_singleton_self _
  · obtain ⟨hdump, ⟨now, -, ht⟩, gone, hlost⟩ := hsome key content t hup
    have hout := Objects.mem_outside.2 ⟨List.mem_singleton_self strangeObject, hother⟩
    rw [← Objects.outside_put _ (o := backupObject key content now) hdump.beginsWith] at hout
    have hmem : strangeObject ∈ t.world.objects := by
      rw [ht]
      exact (Objects.mem_outside.1 hout).1
    rw [hlost.objects, Objects.mem_without]
    refine ⟨hmem, fun hgone => ?_⟩
    rw [(hlost.own _ hmem hgone).2] at hother
    cases hother

end DumpKeeper
