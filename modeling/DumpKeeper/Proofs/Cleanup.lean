import DumpKeeper.Proofs.Retention

/-!
# What a cleanup does to the objects

A cleanup lists the backups below a text, parts the records and deletes those that need not be kept.

* `Store.Plans` — what a cleanup comes to before it deletes anything.  There is a plan only if the
  whole listing could be read and the clock shows a point in time.
* `cleanup_ends` — a cleanup deletes nothing but what it has planned to delete, whichever calls
  fail, and all of it if none fails.
-/

set_option autoImplicit false

namespace DumpKeeper

variable {s : Store} {policy : RetentionSettings} {beginning : String} {r : Run}

/-! ## Plans -/

/-- What a cleanup in `r` plans: the partition, at the time of the clock, of the records that the
listing gives. -/
def Store.Plans (s : Store) (policy : RetentionSettings) (beginning : String) (r : Run)
    (plan : Partition) : Prop :=
  ∃ records now, ((s.list beginning).on r).1 = .ok records ∧
    DateTime.ofReading r.world.now = .ok now ∧
    partition records policy.keepLast policy.keepDuration now = .ok plan

/-- Nothing but the world of `r` counts for `plan`. -/
theorem Store.Plans.of_world {t : Run} {plan : Partition} (h : s.Plans policy beginning r plan)
    (hw : t.world = r.world) : s.Plans policy beginning t plan := by
  obtain ⟨records, now, hl, hn, hp⟩ := h
  refine ⟨records, now, ?_, by rw [hw]; exact hn, hp⟩
  rw [← hl]
  exact (s.isWorldly_list beginning t r hw).1

/-- A plan is made of the records of the objects that the store lists below `beginning`. -/
theorem Store.Plans.records {plan : Partition} (h : s.Plans policy beginning r plan) :
    ∃ records now cutoff, recordsOf (r.world.listing beginning) = .ok records ∧
      DateTime.ofReading r.world.now = .ok now ∧ cutoffOf policy.keepDuration now = .ok cutoff ∧
      plan = partitionAt records policy.keepLast cutoff := by
  obtain ⟨records, now, hl, hn, hp⟩ := h
  obtain ⟨cutoff, hc, rfl⟩ := partition_eq_ok hp
  exact ⟨records, now, cutoff, Store.recordsOf_of_list hl, hn, hc, rfl⟩

/-- What `plan` is to delete are objects below `beginning` that have a time. -/
theorem Store.Plans.mem_toDelete {plan : Partition} (h : s.Plans policy beginning r plan)
    {a : Record} (ha : a ∈ plan.toDelete) :
    ∃ o ∈ r.world.objects, o.key = a.key ∧ beginsWith beginning a.key = true ∧
      o.time.isSome = true := by
  obtain ⟨records, now, cutoff, hr, -, -, rfl⟩ := h.records
  obtain ⟨o, ho, hk, t, ht, -⟩ := mem_records hr (mem_of_mem_toDelete ha)
  rw [World.mem_listing] at ho
  exact ⟨o, ho.1, hk.symm, by rw [hk]; exact ho.2, by rw [ht]; rfl⟩

/-- With distinct keys, nothing that `plan` keeps is planned to be deleted. -/
theorem Store.Plans.key_notMem {plan : Partition} (h : s.Plans policy beginning r plan)
    (hd : r.world.objects.Distinct) {a : Record} (ha : a ∈ plan.kept) :
    a.key ∉ plan.toDelete.map (·.key) := by
  obtain ⟨records, now, cutoff, hr, -, -, rfl⟩ := h.records
  exact key_notMem_toDelete (nodup_keys_of_recordsOf hr (World.distinct_listing hd beginning)) ha

/-- **Where no fault is planned, there is a plan** as soon as the `records` can be told and the
clock and the `cutoff` are points in time. -/
theorem Store.plans_of_calm (hr : r.world.faults = []) {records : List Record} {now : DateTime}
    {cutoff : Option DateTime} (hl : recordsOf (r.world.listing beginning) = .ok records)
    (hn : DateTime.ofReading r.world.now = .ok now)
    (hc : cutoffOf policy.keepDuration now = .ok cutoff) :
    s.Plans policy beginning r (partitionAt records policy.keepLast cutoff) := by
  refine ⟨records, now, ?_, hn, partition_of_isSome _ _ (isSome_offset_of_recordsOf hl) ?_ hc⟩
  · rcases he : (s.list beginning).on r with ⟨f | a, t⟩
    · rw [((s.list_ends beginning r).of_error he).2 hr] at hl
      cases hl
    · rw [← hl, ((s.list_ends beginning r).of_ok he).1]
  · rw [(DateTime.ofReading_eq_ok hn).2.2]
    rfl

/-- A cleanup has one plan. -/
theorem Store.Plans.unique {plan plan' : Partition} (h : s.Plans policy beginning r plan)
    (h' : s.Plans policy beginning r plan') : plan = plan' := by
  obtain ⟨records, now, hl, hn, hp⟩ := h
  obtain ⟨records', now', hl', hn', hp'⟩ := h'
  obtain rfl := Except.ok.inj (hl.symm.trans hl')
  obtain rfl := Except.ok.inj (hn.symm.trans hn')
  exact Except.ok.inj (hp.symm.trans hp')

/-- `partitionNow` makes the plan before anything is deleted.  That there is none is no fault of the
store. -/
theorem partitionNow_ends (s : Store) (policy : RetentionSettings) (beginning : String) (r : Run) :
    (partitionNow s policy beginning).Ends r
      (fun plan t => s.Plans policy beginning r plan ∧ r.Quiet t)
      fun f t => r.Quiet t ∧ (∀ plan, ¬s.Plans policy beginning r plan) ∧
        (r.world.faults = [] → ∀ e, f ≠ .storage e) := by
  have hlist : (s.list beginning).Ends r
      (fun records t => ((s.list beginning).on r).1 = .ok records ∧ r.Quiet t)
      fun f t => r.Quiet t ∧ (∀ records, ((s.list beginning).on r).1 ≠ .ok records) ∧
        (r.world.faults = [] → f = .time .beyondDates) := by
    refine ⟨fun h => ⟨by rw [h], ((s.list_ends beginning r).of_ok h).2⟩, fun h => ?_⟩
    obtain ⟨hq, hf⟩ := (s.list_ends beginning r).of_error h
    refine ⟨hq, fun records hl => ?_, fun hr => recordsOf_error (hf hr)⟩
    rw [h] at hl
    cases hl
  refine hlist.bind_of ?_ ?_
  · rintro f t ⟨hq, hnone, hf⟩
    refine ⟨hq, fun plan ⟨records, _, hl, _⟩ => hnone records hl, fun hr e => ?_⟩
    rw [hf hr]
    exact Failure.noConfusion
  rintro records t ⟨hl, hq⟩
  refine (Act.currentTime_ends t).bind_of ?_ ?_
  · rintro _ t' ⟨rfl, f, hn, rfl⟩
    rw [hq.now] at hn
    refine ⟨hq, fun plan ⟨_, now, _, hn', _⟩ => ?_, fun _ e => Failure.noConfusion⟩
    rw [hn] at hn'
    cases hn'
  rintro now t' ⟨rfl, hn⟩
  rw [hq.now] at hn
  refine (Act.liftM_ends _ t').mono ?_ ?_
  · rintro plan u ⟨rfl, hp⟩
    refine ⟨⟨records, now, hl, hn, ?_⟩, hq⟩
    rcases hpart : partition records policy.keepLast policy.keepDuration now with f | plan'
    · rw [hpart] at hp
      cases hp
    · rw [hpart] at hp
      exact congrArg Except.ok (Except.ok.inj hp)
  · rintro f u ⟨rfl, hp⟩
    refine ⟨hq, fun plan ⟨records', now', hl', hn', hp'⟩ => ?_, fun _ e he => ?_⟩
    · obtain rfl := Except.ok.inj (hl.symm.trans hl')
      obtain rfl := Except.ok.inj (hn.symm.trans hn')
      rw [hp'] at hp
      cases hp
    · rcases hpart : partition records policy.keepLast policy.keepDuration now with g | plan'
      · rw [hpart, he] at hp
        cases g <;> cases hp
      · rw [hpart] at hp
        cases hp

/-! ## Deletions -/

/-- `deleteOne` concerns one object.  It fails or stops the cleanup only for a fault that was
planned. -/
theorem deleteOne_ends (s : Store) (key : String) (r : Run) :
    (deleteOne s key).Ends r
      (fun worked t => r.Removes [key] t ∧ (r.world.faults = [] → worked = true))
      fun _ t => r.Removes [key] t ∧ r.world.faults ≠ [] := by
  refine (Act.isAside_say _ _ _).ends_bind fun _ u hu => ?_
  refine (Act.isAside_count _).ends_bind fun _ u' hu' => ?_
  have hq : r.Quiet u' := Run.Quiet.of_world (hu'.trans hu)
  have hf : r.world.faults = u'.world.faults := by rw [hu', hu]
  refine (s.delete_ends key u').attempt (fun _ t ht => ?_) ?_
  · exact (Act.isAside_count _).ends_bind fun _ v hv =>
      Act.Ends.pure ⟨(hq.removes ht).quiet (Run.Quiet.of_world hv), fun _ => rfl⟩
  · rintro f t ⟨ht, hfaults⟩
    have hr := hq.removes ht
    have hplanned : r.world.faults ≠ [] := hf ▸ hfaults
    cases f with
    | storage e =>
      refine (Act.isAside_say _ _ _).ends_bind fun _ v hv => ?_
      exact (Act.isAside_count _).ends_bind fun _ w hw =>
        Act.Ends.pure ⟨hr.quiet (Run.Quiet.of_world (hw.trans hv)), fun h => absurd h hplanned⟩
    | _ => exact Act.Ends.fail ⟨hr, hplanned⟩

/-- `deleteAll` does the deletions that follow a failed one all the same, or not at all. -/
theorem deleteAll_ends (s : Store) (records : List Record) (r : Run) :
    (deleteAll s records).Ends r
      (fun deleted t => r.Removes (records.map (·.key)) t ∧
        (r.world.faults = [] → deleted = records.length))
      fun _ t => r.Removes (records.map (·.key)) t ∧ r.world.faults ≠ [] := by
  -- the run is another one at every deletion, for each may meet a fault
  induction records generalizing r with
  | nil => exact Act.Ends.pure ⟨(Run.Quiet.refl r).removes_nil, fun _ => rfl⟩
  | cons a rest ih =>
    rw [deleteAll, List.map_cons]
    refine (deleteOne_ends s a.key r).bind_of ?_ ?_
    · rintro _ t ⟨ht, hf⟩
      exact ⟨ht.mono_of_faults (List.cons_subset_cons _ (List.nil_subset _)) hf, hf⟩
    rintro worked t ⟨ht, hworked⟩
    refine (ih t).bind_of ?_ ?_
    · rintro _ u ⟨hu, hf⟩
      exact ⟨ht.trans hu, fun hr => hf (ht.calm hr)⟩
    · rintro more u ⟨hu, hmore⟩
      refine Act.Ends.pure ⟨ht.trans hu, fun hr => ?_⟩
      rw [hworked hr, hmore (ht.calm hr), List.length_cons, if_pos rfl, Nat.add_comm]

/-- **A cleanup deletes nothing but what it has planned to delete**, by `Store.Plans`.  Where no
fault is planned, it deletes all of that, or it has no plan. -/
theorem cleanup_ends (s : Store) (policy : RetentionSettings) (beginning : String) (r : Run) :
    (cleanup s policy beginning).Ends r
      (fun deleted t => ∃ plan, s.Plans policy beginning r plan ∧
        r.Removes (plan.toDelete.map (·.key)) t ∧
        (r.world.faults = [] → deleted = plan.toDelete.length))
      fun f t => (r.Quiet t ∨ ∃ plan, s.Plans policy beginning r plan ∧
          r.Removes (plan.toDelete.map (·.key)) t) ∧
        (r.world.faults = [] → (∀ plan, ¬s.Plans policy beginning r plan) ∧
          ∀ e, f ≠ .storage e) := by
  rw [cleanup]
  refine (Act.isAside_count _).ends_bind fun _ u hu => ?_
  have hq : r.Quiet u := Run.Quiet.of_world hu
  refine (partitionNow_ends s policy beginning u).bind_of ?_ ?_
  · rintro f t ⟨ht, hnone, hf⟩
    refine ⟨.inl (hq.trans ht), fun hr => ⟨fun plan hp => ?_, hf (hq.calm hr)⟩⟩
    exact hnone plan (hp.of_world hu)
  rintro plan t ⟨hplan, ht⟩
  have hp : s.Plans policy beginning r plan := hplan.of_world hu.symm
  have hqt : r.Quiet t := hq.trans ht
  refine (Act.isAside_say _ _ _).ends_bind fun _ t' ht' => ?_
  have hqt' : r.Quiet t' := hqt.trans (Run.Quiet.of_world ht')
  refine (deleteAll_ends s plan.toDelete t').bind_of ?_ ?_
  · rintro f w ⟨hw, hf⟩
    refine ⟨.inr ⟨plan, hp, hqt'.removes hw⟩, fun hr => absurd (hqt'.calm hr) hf⟩
  · rintro deleted w ⟨hw, hall⟩
    split
    · exact (Act.isAside_say _ _ _).ends_bind fun _ v hv =>
        Act.Ends.pure ⟨plan, hp, (hqt'.removes hw).quiet (Run.Quiet.of_world hv),
          fun hr => hall (hqt'.calm hr)⟩
    · exact Act.Ends.pure ⟨plan, hp, hqt'.removes hw, fun hr => hall (hqt'.calm hr)⟩

end DumpKeeper
