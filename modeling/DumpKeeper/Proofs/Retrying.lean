import DumpKeeper.Proofs.Partition

/-!
# Cleanups after failed deletions

A backup that could not be deleted is listed again by the next cleanup, which does not know about
the failure.  It need not: a partition of what is left of a listing keeps what it kept before, and
deletes the rest of what it was to delete.  So the next cleanup ends where the failed one was to
end, and one more has nothing to do.

* `Run.calmed` — a run in which nothing fails any more; `Store.retried` — one after two cleanups, of
  which something may fail in the first only.
* `Store.Plans.left` — the plan of a cleanup that finds some of the backups gone already.
* `cleanup_calm` — all that a cleanup does if nothing fails.
* `failed_deletions_are_retried` — what a partition of a part of a listing keeps, and where a
  cleanup ends after one in which something has failed.
-/

set_option autoImplicit false

namespace DumpKeeper

variable {s : Store} {policy : RetentionSettings} {beginning : String} {r t : Run}

/-- The run `r`, but nothing fails any more. -/
def Run.calmed (r : Run) : Run := { r with world := { r.world with faults := [] } }

/-- The run that a cleanup of the store `s` leaves. -/
def Store.cleaned (s : Store) (policy : RetentionSettings) (beginning : String) (r : Run) : Run :=
  ((cleanup s policy beginning).on r).2

/-- The run after a cleanup of the store `s` and another one, in which nothing fails. -/
def Store.retried (s : Store) (policy : RetentionSettings) (beginning : String) (r : Run) : Run :=
  s.cleaned policy beginning (s.cleaned policy beginning r).calmed

/-! ## What is left of a listing -/

/-- What `without` removes depends on which `keys` are given, and not on how often or in which
order. -/
theorem Objects.without_congr {os : Objects} {keys keys' : List String}
    (h : ∀ key, key ∈ keys ↔ key ∈ keys') : os.without keys = os.without keys' := by
  refine List.filter_congr fun o _ => congrArg (!·) ?_
  rw [Bool.eq_iff_iff, List.contains_iff_mem, List.contains_iff_mem]
  exact h o.key

/-- The records of the objects that are left are those `records` that are left. -/
theorem recordsOf_without {os : Objects} {records : List Record} (h : recordsOf os = .ok records)
    (gone : List String) :
    recordsOf (os.without gone) = .ok (records.filter fun a => !gone.contains a.key) := by
  have hdatable : Objects.Datable (os.without gone) := fun o ho =>
    recordsOf_eq_ok_iff.1 ⟨records, h⟩ o (Objects.mem_without.1 ho).1
  rw [recordsOf_of_datable hdatable, recordsOf_eq_ok h, Objects.without, List.filterMap_filter,
    List.filter_filterMap]
  refine congrArg Except.ok (List.filterMap_congr fun o _ => ?_)
  rcases ho : o.record? with _ | a
  · simp
  · rw [Option.filter_some, (StoredObject.record?_eq_some ho).1]

/-! ## Plans that are left -/

/-- Nothing but the `scene` counts for a `plan`, if nothing fails. -/
theorem Store.Plans.of_scene {plan : Partition} (h : s.Plans policy beginning t plan)
    (hs : t.world.scene = r.world.scene) (hr : r.world.faults = []) :
    s.Plans policy beginning r plan := by
  obtain ⟨records, now, cutoff, hl, hn, hc, rfl⟩ := h.records
  have hlisting : t.world.listing beginning = r.world.listing beginning :=
    (congrArg (World.listing · beginning) hs :)
  have hnow : t.world.now = r.world.now := (congrArg World.now hs :)
  rw [hlisting] at hl
  rw [hnow] at hn
  exact s.plans_of_calm hr hl hn hc

/-- **The plan that is left**, after some of the backups that `plan` was to delete are gone: the
same backups are kept, and the others are still to be deleted. -/
theorem Store.Plans.left {plan : Partition} {gone : List String}
    (h : s.Plans policy beginning r plan) (hd : r.world.objects.Distinct)
    (hgone : gone ⊆ plan.toDelete.map (·.key)) (hl : r.Leaves t (r.world.objects.without gone))
    (ht : t.world.faults = []) :
    ∃ left, s.Plans policy beginning t left ∧ left.kept = plan.kept ∧
      left.toDelete = plan.toDelete.filter fun a => !gone.contains a.key := by
  have hkept : ∀ a ∈ plan.kept, (!gone.contains a.key) = true := by
    intro a ha
    rw [Bool.not_eq_true', ← Bool.not_eq_true, List.contains_iff_mem]
    exact fun hg => h.key_notMem hd ha (hgone hg)
  obtain ⟨records, now, cutoff, hrec, hn, hc, rfl⟩ := h.records
  refine ⟨_, s.plans_of_calm ht ?_ (hl.now ▸ hn) hc, partitionAt_filter hkept⟩
  rw [hl.listing_without]
  exact recordsOf_without hrec gone

/-! ## Cleanups in which nothing fails -/

/-- **If nothing fails, `cleanup` deletes what it has planned to delete**, or it has no plan, fails
and does nothing. -/
theorem cleanup_calm (s : Store) (policy : RetentionSettings) (beginning : String)
    (hr : r.world.faults = []) :
    (∃ plan, s.Plans policy beginning r plan ∧
        ((cleanup s policy beginning).on r).1 = .ok plan.toDelete.length ∧
        r.Leaves (s.cleaned policy beginning r)
          (r.world.objects.without (plan.toDelete.map (·.key)))) ∨
      (∀ plan, ¬s.Plans policy beginning r plan) ∧
        (∃ f, ((cleanup s policy beginning).on r).1 = .error f) ∧
        r.Quiet (s.cleaned policy beginning r) := by
  have hends := cleanup_ends s policy beginning r
  rw [Store.cleaned]
  rcases he : (cleanup s policy beginning).on r with ⟨f | deleted, t⟩
  · obtain ⟨hq | ⟨plan, hp, -⟩, hnone⟩ := hends.of_error he
    · exact .inr ⟨(hnone hr).1, ⟨f, rfl⟩, hq⟩
    · exact absurd hp ((hnone hr).1 plan)
  · obtain ⟨plan, hp, ⟨gone, -, hl, hall⟩, hcount⟩ := hends.of_ok he
    obtain rfl := hall hr
    exact .inl ⟨plan, hp, congrArg Except.ok (hcount hr), hl⟩

/-- Whatever fails, a cleanup, `cleaned`, leaves the objects without some of those, `gone`, that it
was to delete. -/
theorem exists_gone (s : Store) (policy : RetentionSettings) (beginning : String) (r : Run) :
    ∃ gone, r.Leaves (s.cleaned policy beginning r) (r.world.objects.without gone) ∧
      (gone = [] ∨ ∃ plan, s.Plans policy beginning r plan ∧
        gone ⊆ plan.toDelete.map (·.key)) := by
  have hends := cleanup_ends s policy beginning r
  rw [Store.cleaned]
  rcases he : (cleanup s policy beginning).on r with ⟨f | deleted, t⟩
  · rcases (hends.of_error he).1 with hq | ⟨plan, hp, gone, hgone, hl, -⟩
    · exact ⟨[], by rwa [Objects.without_nil], .inl rfl⟩
    · exact ⟨gone, hl, .inr ⟨plan, hp, hgone⟩⟩
  · obtain ⟨plan, hp, ⟨gone, hgone, hl, -⟩, -⟩ := hends.of_ok he
    exact ⟨gone, hl, .inr ⟨plan, hp, hgone⟩⟩

/-! ## Cleanups one after the other -/

theorem Run.Leaves.calmed {os : Objects} (h : r.Leaves t os) : r.calmed.Leaves t.calmed os :=
  ⟨h.scene, fun _ => rfl⟩

/-- A cleanup that finds some of the backups `gone` already ends where it would have ended with all
of them there. -/
theorem objects_cleaned_of_gone {plan : Partition} {gone : List String}
    (h : s.Plans policy beginning r plan) (hd : r.world.objects.Distinct)
    (hgone : gone ⊆ plan.toDelete.map (·.key)) (hl : r.Leaves t (r.world.objects.without gone))
    (ht : t.world.faults = []) :
    r.Leaves (s.cleaned policy beginning t)
        (r.world.objects.without (plan.toDelete.map (·.key))) ∧
      ∃ left, s.Plans policy beginning t left ∧
        ((cleanup s policy beginning).on t).1 = .ok left.toDelete.length ∧
        left.toDelete = plan.toDelete.filter fun a => !gone.contains a.key := by
  obtain ⟨left, hleft, -, hrest⟩ := h.left hd hgone hl ht
  rcases cleanup_calm s policy beginning ht with ⟨left', hleft', hanswer, hl'⟩ | ⟨hnone, -⟩
  · obtain rfl := hleft'.unique hleft
    refine ⟨?_, left', hleft, hanswer, hrest⟩
    have hsame : r.world.objects.without (gone ++ left'.toDelete.map (·.key)) =
        r.world.objects.without (plan.toDelete.map (·.key)) := by
      refine Objects.without_congr fun key => ?_
      rw [hrest, List.mem_append]
      constructor
      · rintro (hk | hk)
        · exact hgone hk
        · exact (List.filter_sublist.map _).subset hk
      · intro hk
        obtain ⟨a, ha, rfl⟩ := List.mem_map.1 hk
        by_cases hg : a.key ∈ gone
        · exact .inl hg
        · exact .inr (List.mem_map_of_mem (List.mem_filter.2 ⟨ha, by simpa using hg⟩))
    rw [hl.objects, ← Objects.without_append, hsame] at hl'
    exact hl.trans hl'
  · exact absurd hleft (hnone left)

/-- A cleanup that has no plan, by `Plans`, leaves none to the next one. -/
theorem quiet_cleaned_of_not_plans (hnone : ∀ plan, ¬s.Plans policy beginning r plan)
    (hr : r.world.faults = []) (hq : r.Quiet t) : r.Quiet (s.cleaned policy beginning t) := by
  rcases cleanup_calm s policy beginning (hq.calm hr) with ⟨plan, hplan, -⟩ | ⟨-, -, hquiet⟩
  · exact absurd (hplan.of_scene hq.scene hr) (hnone plan)
  · exact hq.trans hquiet

/-- **A cleanup after one that may have failed ends where that one was to end**, by `Store.retried`,
and another one after it deletes nothing.  Whatever fails in the first cleanup, nothing fails in the
others, and the clock shows the same time. -/
theorem objects_cleaned_again (hd : r.world.objects.Distinct) :
    (s.retried policy beginning r).world.objects =
        (s.cleaned policy beginning r.calmed).world.objects ∧
      (s.cleaned policy beginning (s.retried policy beginning r)).world.objects =
        (s.retried policy beginning r).world.objects ∧
      ∀ n, ((cleanup s policy beginning).on r.calmed).1 = .ok n →
        ((cleanup s policy beginning).on (s.retried policy beginning r)).1 = .ok 0 := by
  rw [Store.retried]
  obtain ⟨gone, hl, hgone⟩ := exists_gone s policy beginning r
  rcases cleanup_calm s policy beginning (r := r.calmed) rfl with
    ⟨plan, hplan, -, honce⟩ | ⟨hnone, ⟨f, hf⟩, hquiet⟩
  · have hsub : gone ⊆ plan.toDelete.map (·.key) := by
      obtain rfl | ⟨plan', hplan', hsub⟩ := hgone
      · exact List.nil_subset _
      · rwa [(hplan'.of_scene (r := r.calmed) rfl rfl).unique hplan] at hsub
    obtain ⟨hagain, -⟩ := objects_cleaned_of_gone hplan hd hsub hl.calmed rfl
    obtain ⟨hthird, left, -, hanswer, hleft⟩ :=
      objects_cleaned_of_gone hplan hd (List.Subset.refl _) hagain (hagain.calm rfl)
    have hnothing : left.toDelete = [] := by
      rw [hleft, List.filter_eq_nil_iff]
      intro a ha
      simpa using ⟨a, ha, rfl⟩
    rw [hnothing] at hanswer
    exact ⟨hagain.objects.trans honce.objects.symm, hthird.objects.trans hagain.objects.symm,
      fun _ _ => hanswer⟩
  · have hfirst : r.calmed.Quiet (s.cleaned policy beginning r).calmed := by
      obtain rfl | ⟨plan, hplan, -⟩ := hgone
      · rw [Objects.without_nil] at hl
        exact hl.calmed
      · exact absurd (hplan.of_scene (r := r.calmed) rfl rfl) (hnone plan)
    have hagain := quiet_cleaned_of_not_plans hnone rfl hfirst
    have hthird := quiet_cleaned_of_not_plans hnone rfl hagain
    refine ⟨hagain.objects.trans hquiet.objects.symm, hthird.objects.trans hagain.objects.symm,
      fun n hn => ?_⟩
    cases hf.symm.trans hn

/-- **Deletions that failed are made up for, and what is kept is safe.**  `partition` does not mind
that some of what it was to delete is gone from the listing, and so a `cleanup` in which any calls
fail, followed by one in which none does, leaves the store as one good cleanup does. -/
theorem failed_deletions_are_retried :
    (∀ (records : List Record) (policy : RetentionSettings) (now : DateTime) (plan : Partition)
        (gone : List Nat),
      partition records policy.keepLast policy.keepDuration now = .ok plan →
      (∀ i ∈ gone, i ∈ plan.delete) →
      ∃ left, partition (withoutPlaces records gone) policy.keepLast policy.keepDuration now =
          .ok left ∧
        left.kept = plan.kept ∧
        left.toDelete = plan.select (plan.delete.filter fun i => !gone.contains i)) ∧
    ∀ (s : Store) (policy : RetentionSettings) (beginning : String) (r : Run),
      r.world.objects.Distinct →
      (s.retried policy beginning r).world.objects =
          (s.cleaned policy beginning r.calmed).world.objects ∧
        (s.cleaned policy beginning (s.retried policy beginning r)).world.objects =
          (s.retried policy beginning r).world.objects ∧
        ∀ n, ((cleanup s policy beginning).on r.calmed).1 = .ok n →
          ((cleanup s policy beginning).on (s.retried policy beginning r)).1 = .ok 0 := by
  constructor
  · intro records policy now plan gone h hgone
    exact partition_withoutPlaces h hgone
  · intro s policy beginning r hd
    exact objects_cleaned_again hd

/-- The store of a run in which the first deletion fails. -/
def deniedStore : Store := ⟨.s3, "bucket"⟩

def deniedRun : Run :=
  { world := { objects := fourRecords.map fun a => backupObject a.key .empty a.time
               faults := [("delete_object", some (.unreachable "timeout"))] } }

/-- Three of the four backups are to be deleted there. -/
theorem retried_in_deniedRun :
    (∃ left, partition (withoutPlaces fourRecords [2]) 1 none ⟨0, some 0⟩ = .ok left ∧
        left.kept = (partitionAt fourRecords 1 none).kept ∧
        left.toDelete = (partitionAt fourRecords 1 none).select [1, 3]) ∧
      deniedRun.world.objects.Distinct ∧
      ((cleanup deniedStore ⟨1, none⟩ "").on deniedRun.calmed).1 = .ok 3 ∧
      (deniedStore.retried ⟨1, none⟩ "" deniedRun).world.objects =
        (deniedStore.cleaned ⟨1, none⟩ "" deniedRun.calmed).world.objects ∧
      ((cleanup deniedStore ⟨1, none⟩ "").on (deniedStore.retried ⟨1, none⟩ "" deniedRun)).1 =
        .ok 0 := by
  have hdelete : (partitionAt fourRecords 1 none).delete = [1, 2, 3] := by
    rw [Partition.delete, keep_partitionAt]
    change (List.range (newestFirst fourRecords).length).filter _ = _
    rw [length_newestFirst]
    rfl
  have hthree : (partitionAt fourRecords 1 none).toDelete.length = 3 := by
    rw [toDelete_eq_drop, List.length_drop, length_newestFirst]
    rfl
  have hdistinct : deniedRun.world.objects.Distinct := by
    rw [Objects.Distinct]
    decide
  have hplan : deniedStore.Plans ⟨1, none⟩ "" deniedRun.calmed (partitionAt fourRecords 1 none) :=
    deniedStore.plans_of_calm rfl rfl rfl rfl
  have honce : ((cleanup deniedStore ⟨1, none⟩ "").on deniedRun.calmed).1 = .ok 3 := by
    rcases cleanup_calm deniedStore ⟨1, none⟩ "" (r := deniedRun.calmed) rfl with
      ⟨plan, hplan', hanswer, -⟩ | ⟨hnone, -⟩
    · rw [hanswer, hplan'.unique hplan, hthree]
    · exact absurd hplan (hnone _)
  obtain ⟨left, hleft, hkept, hrest⟩ := failed_deletions_are_retried.1 fourRecords ⟨1, none⟩
    ⟨0, some 0⟩ _ [2] rfl (by rw [hdelete]; decide)
  rw [hdelete] at hrest
  obtain ⟨hagain, -, hnothing⟩ :=
    failed_deletions_are_retried.2 deniedStore ⟨1, none⟩ "" deniedRun hdistinct
  exact ⟨⟨left, hleft, hkept, hrest⟩, hdistinct, honce, hagain, hnothing 3 honce⟩

end DumpKeeper
