import DumpKeeper.Proofs.Cleanup
import DumpKeeper.Proofs.Faults

/-!
# Cleanups that stumble over a time

A cleanup reckons with times: those of the objects that it lists, and the cutoff of the policy.  One
that lies outside of all dates ends the cleanup before it has a plan, and no store is to blame.

* `RetentionSettings.ReachesTooFar`, `cutoffOf_eq_error_iff` — periods for which there is no cutoff.
* `Store.Stumbles` — a cleanup that comes to such a time.
* `Store.stumbles_iff_of_calm` — when that happens, if no fault gets in between.
* `partitionNow_stumbles` — how a plan can fail: with a fault of the store, or by stumbling.
-/

set_option autoImplicit false

namespace DumpKeeper

/-! ## Cutoffs -/

/-- A point in time `t` cannot be moved back, by `before`, beyond all dates. -/
theorem DateTime.before_eq_error_iff {t : DateTime} {d : Duration} :
    (∃ f, t.before d = .error f) ↔ ¬(0 ≤ t.wall - d.micros ∧ t.wall - d.micros < wallLimit) := by
  rw [before, ofWall?]
  by_cases h : 0 ≤ t.wall - d.micros ∧ t.wall - d.micros < wallLimit
  · rw [if_pos h]
    refine iff_of_false ?_ (not_not_intro h)
    rintro ⟨f, hf⟩
    cases hf
  · rw [if_neg h]
    exact iff_of_true ⟨_, rfl⟩ h

/-- The period of a policy reaches back, from `now`, to a time outside of all dates. -/
def RetentionSettings.ReachesTooFar (policy : RetentionSettings) (now : DateTime) : Prop :=
  ∃ d, policy.keepDuration = some d ∧ d.isZero = false ∧
    ¬(0 ≤ now.wall - d.micros ∧ now.wall - d.micros < DateTime.wallLimit)

/-- **There is a cutoff, or none is needed, unless the period of `policy` reaches back too far.** -/
theorem cutoffOf_eq_error_iff {policy : RetentionSettings} {now : DateTime} :
    (∃ f, cutoffOf policy.keepDuration now = .error f) ↔ policy.ReachesTooFar now := by
  rw [RetentionSettings.ReachesTooFar]
  rcases policy.keepDuration with _ | d
  · simp [cutoffOf]
  simp only [Option.some.injEq, exists_eq_left', cutoffOf, Option.filter_some]
  rcases hd : d.isZero with _ | _
  · simp only [Bool.not_false, if_true, true_and, ← DateTime.before_eq_error_iff]
    rcases now.before d with f | c <;> simp [Except.map]
  · simp

/-- Records are not parted at a cutoff outside of all dates, when `cutoffOf` fails. -/
theorem partition_of_cutoffOf_error {records : List Record} (keepLast : Int)
    {keepDuration : Option Duration} {now : DateTime} {f : TimeFault}
    (h : comparable (records.map (·.time)) = true) (hc : cutoffOf keepDuration now = .error f) :
    partition records keepLast keepDuration now = .error (.time f) := by
  rw [partition]
  dsimp only
  rw [h, hc, if_neg (by simp)]
  rfl

/-! ## Records -/

theorem recordOf_of_isOk {o : StoredObject} (h : (recordOf o).isOk = true) {t : DateTime}
    (ht : o.time = some t) : ∃ u, t.toUtcSeconds? = some u := by
  rw [recordOf, ht] at h
  dsimp only at h
  rcases hu : t.toUtcSeconds? with _ | u
  · rw [hu] at h
    cases h
  · exact ⟨u, rfl⟩

/-- Objects have records just when they are `Datable`: the UTC clock can show their times. -/
theorem recordsOf_eq_ok_iff {os : Objects} :
    (∃ records, recordsOf os = .ok records) ↔ os.Datable := by
  refine ⟨?_, fun h => ⟨_, recordsOf_of_datable h⟩⟩
  rintro ⟨records, h⟩
  induction os generalizing records with
  | nil => exact Objects.datable_nil
  | cons o os ih =>
    rw [recordsOf_cons] at h
    rcases ho : recordOf o with f | a
    · rw [ho] at h
      cases h
    rcases hos : recordsOf os with f | more
    · rw [ho, hos] at h
      cases h
    intro p hp t ht
    rcases List.mem_cons.1 hp with rfl | hp
    · exact recordOf_of_isOk (by rw [ho]; rfl) ht
    · exact ih more hos p hp t ht

/-! ## Stumbling -/

/-- **A cleanup in `r` stumbles**: the listing comes to a time that the UTC clock cannot show, or
the listing is done and the period of the policy reaches back too far. -/
def Store.Stumbles (s : Store) (policy : RetentionSettings) (beginning : String) (r : Run) : Prop :=
  (∃ f, ((s.list beginning).on r).1 = .error (.time f)) ∨
    ∃ records now, ((s.list beginning).on r).1 = .ok records ∧
      DateTime.ofReading r.world.now = .ok now ∧ policy.ReachesTooFar now

variable {s : Store} {policy : RetentionSettings} {beginning : String} {r : Run} {now : DateTime}

/-- Nothing but the `world` counts for whether a cleanup `Stumbles`. -/
theorem Store.stumbles_congr {t : Run} (h : t.world = r.world) :
    s.Stumbles policy beginning t ↔ s.Stumbles policy beginning r := by
  rw [Store.Stumbles, Store.Stumbles, (s.isWorldly_list beginning t r h).1, h]

/-- A cleanup of which the listing has failed for another reason does not stumble. -/
theorem Store.not_stumbles_of_error {f : Failure} (h : ((s.list beginning).on r).1 = .error f)
    (hf : ∀ g, f ≠ .time g) : ¬s.Stumbles policy beginning r := by
  rintro (⟨g, hg⟩ | ⟨records, _, hl, -⟩)
  · exact hf g (Except.error.inj (h.symm.trans hg))
  · cases h.symm.trans hl

/-- Once the listing is done, only the period counts: `Stumbles` is `ReachesTooFar`. -/
theorem Store.stumbles_of_ok {records : List Record}
    (h : ((s.list beginning).on r).1 = .ok records)
    (hn : DateTime.ofReading r.world.now = .ok now) :
    s.Stumbles policy beginning r ↔ policy.ReachesTooFar now := by
  constructor
  · rintro (⟨f, hf⟩ | ⟨_, now', -, hn', hfar⟩)
    · cases h.symm.trans hf
    · obtain rfl := Except.ok.inj (hn.symm.trans hn')
      exact hfar
  · exact fun hfar => .inr ⟨records, now, h, hn, hfar⟩

/-- **When a cleanup stumbles, if no fault is planned**: some object below `beginning` has a time
that the UTC clock cannot show, or the period of `policy` reaches back too far. -/
theorem Store.stumbles_iff_of_calm (hr : r.world.faults = [])
    (hn : DateTime.ofReading r.world.now = .ok now) :
    s.Stumbles policy beginning r ↔
      ¬(r.world.objects.below beginning).Datable ∨ policy.ReachesTooFar now := by
  rcases he : (s.list beginning).on r with ⟨f | records, t⟩
  · have hrec := ((s.list_ends beginning r).of_error he).2 hr
    have htime : f = .time .beyondDates := recordsOf_error hrec
    refine iff_of_true (.inl ⟨.beyondDates, by rw [he, htime]⟩) (.inl fun hd => ?_)
    obtain ⟨records, hok⟩ := recordsOf_eq_ok_iff.2 (World.datable_listing.2 hd)
    cases hrec.symm.trans hok
  · have hdatable : (r.world.objects.below beginning).Datable :=
      World.datable_listing.1
        (recordsOf_eq_ok_iff.1 ⟨records, ((s.list_ends beginning r).of_ok he).1⟩)
    rw [Store.stumbles_of_ok (congrArg Prod.fst he) hn]
    exact ⟨.inr, fun h => h.resolve_left (not_not_intro hdatable)⟩

/-! ## Plans that fail -/

variable {w : World}

theorem weathers_partitionNow (hw : w.Expects) (s : Store) (policy : RetentionSettings)
    (beginning : String) :
    (partitionNow s policy beginning).Weathers w fun _ => True :=
  ((s.weathers_list hw beginning).mono fun _ _ => trivial).bind fun _ =>
    (Act.weathers_currentTime.mono fun _ _ => trivial).bind fun _ =>
      Act.weathers_liftM fun _ _ => trivial

/-- **`partitionNow` makes a plan unless the cleanup stumbles or the store fails**, and which of the
two it was can be told by the failure. -/
theorem partitionNow_stumbles (hw : w.Expects) (hr : w.Follows r.world)
    (hn : DateTime.ofReading w.now = .ok now) :
    (partitionNow s policy beginning).Ends r
      (fun _ _ => ¬s.Stumbles policy beginning r)
      fun f _ => s.Stumbles policy beginning r ↔ ∀ e, f ≠ .storage e := by
  have hlist := s.weathers_list hw beginning r hr
  rcases he : (s.list beginning).on r with ⟨f | records, t⟩
  · refine Act.ends_of_error (Act.on_bind_error he) ?_
    obtain ⟨-, ⟨-, e, rfl⟩ | rfl⟩ := hlist.of_error he
    · refine iff_of_false ?_ fun h => h e rfl
      exact Store.not_stumbles_of_error (congrArg Prod.fst he) fun _ => Failure.noConfusion
    · exact iff_of_true (.inl ⟨.beyondDates, by rw [he]⟩) fun _ => Failure.noConfusion
  have hstumbles : s.Stumbles policy beginning r ↔ policy.ReachesTooFar now :=
    Store.stumbles_of_ok (congrArg Prod.fst he) (hr.now ▸ hn)
  have hnow : currentTime.on t = (.ok now, t) := by
    rw [Act.on_currentTime, (hlist.of_ok he).2.now, hn]
    rfl
  have hrec := ((s.list_ends beginning r).of_ok he).1
  have hoffset := isSome_offset_of_recordsOf hrec
  refine Act.Ends.bind_ok he (Act.Ends.bind_ok hnow ?_)
  rcases hcut : cutoffOf policy.keepDuration now with f | cutoff
  · refine Act.ends_of_error (f := .time f) (s := t) ?_ ?_
    · rw [Act.on_liftM, partition_of_cutoffOf_error _
        (comparable_of_isSome (List.forall_mem_map.2 hoffset)) hcut]
      rfl
    · have hfar : policy.ReachesTooFar now := cutoffOf_eq_error_iff.1 ⟨f, hcut⟩
      exact iff_of_true (hstumbles.2 hfar) fun _ => Failure.noConfusion
  · refine Act.ends_of_ok (a := partitionAt records policy.keepLast cutoff) (s := t) ?_ ?_
    · rw [Act.on_liftM, partition_of_isSome _ _ hoffset ?_ hcut]
      · rfl
      · rw [(DateTime.ofReading_eq_ok hn).2.2]
        rfl
    · rw [hstumbles, ← cutoffOf_eq_error_iff, hcut]
      rintro ⟨f, hf⟩
      cases hf

end DumpKeeper
