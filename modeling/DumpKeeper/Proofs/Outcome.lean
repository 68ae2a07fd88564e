import DumpKeeper.Config.Load
import DumpKeeper.Proofs.Counting
import DumpKeeper.Proofs.Timer

/-!
# Whether a cycle is reported as it is counted

The scheduler reports of every cycle whether it was a good one, and the counters tell how many
cycles were successful and how many have failed.  The two need not agree: a cleanup that stumbles
over a time comes behind an upload that was counted as a successful one, and still ends the cycle
with a failure.

* `Executor.Accounts.of_none`, `Executor.Accounts.of_some` — what a cycle without an upload and a
  cycle with one answer and count.
* `Schedule.Truthful` — the report and the counters agree.
* `Schedule.truthful_iff` — they do unless a cleanup stumbles behind an upload.
* `settingsFor` — settings that say nothing but how long backups are to be kept.  Some periods are
  accepted and have every cleanup stumble.
-/

set_option autoImplicit false

namespace DumpKeeper

/-! ## Reports -/

namespace Schedule

/-- **What `runCycleSafely` reports agrees with what was counted**: a report is a bad one just when
one more cycle has failed, and it is a good one if one more cycle was successful. -/
def Truthful (given : Option Executor) (r : Run) : Prop :=
  ∃ good s, (runCycleSafely runCycle given).on r = (.ok good, s) ∧
    (good = false ↔ s.metrics.failed = r.metrics.failed.next) ∧
    (s.metrics.successful = r.metrics.successful.next → good = true)

end Schedule

/-! ## What the two counters show -/

/-- Deletions, by `noteDeletions`, count for nothing but deletions. -/
theorem Metrics.get_noteDeletions (m : Metrics) (worked : List Bool) {c : Counter}
    (hc : c ∉ [Counter.deletes, .deleted, .deleteFailures]) :
    (m.noteDeletions worked).get c = m.get c := by
  rw [noteDeletions_eq]
  cases c with
  | deletes | deleted | deleteFailures => exact absurd hc (by decide)
  | _ => rfl

section Accounts

variable {x : Executor} {r t : Run} {answer : Except Failure (Option String)} {m : Metrics}
  {key : String} {content : ByteArray}

/-- **A cycle that comes to no upload** is no successful one, and one more has failed just when it
has no `answer`. -/
theorem Executor.Accounts.of_none (h : x.Accounts r answer m) (hup : uploaded? x r = none) :
    m.successful = r.metrics.successful ∧
      m.failed = if answer.isOk then r.metrics.failed else r.metrics.failed.next := by
  cases h with
  | skipped => exact ⟨rfl, rfl⟩
  | failed => exact ⟨rfl, rfl⟩
  | refused => exact ⟨rfl, rfl⟩
  | stored _ hup' => cases hup.symm.trans hup'

/-- **A cycle that comes to an upload** is one more successful one and none that failed.  It has an
`answer` unless its cleanup stumbles. -/
theorem Executor.Accounts.of_some (h : x.Accounts r answer m)
    (hup : uploaded? x r = some (key, content, t)) :
    m.successful = r.metrics.successful.next ∧ m.failed = r.metrics.failed ∧
      (answer.isOk = false ↔ x.Stumbles t) := by
  cases h with
  | skipped hup' => cases hup.symm.trans hup'
  | failed hup' => cases hup.symm.trans hup'
  | refused _ hup' => cases hup.symm.trans hup'
  | stored worked hup' _ hanswer =>
    cases hup.symm.trans hup'
    refine ⟨?_, ?_, ?_⟩
    · exact Metrics.get_noteDeletions _ worked (c := .successful) (by decide)
    · exact Metrics.get_noteDeletions _ worked (c := .failed) (by decide)
    · obtain ⟨rfl, hno⟩ | ⟨f, rfl, -, hstumbles⟩ := hanswer
      · exact iff_of_false Bool.noConfusion hno
      · exact iff_of_true rfl hstumbles

/-- **When the cleanup of a cycle stumbles, if no fault is planned**: some object of the node has a
time that the UTC clock cannot show, or the policy `ReachesTooFar` back. -/
theorem stumbles_uploaded?_iff {now : DateTime} (hr : r.world.faults = [])
    (hc : 0 < r.world.limits.chunk) (hn : DateTime.ofReading r.world.now = .ok now)
    (hup : uploaded? x r = some (key, content, t)) :
    x.Stumbles t ↔
      ¬((r.world.store key content now).objects.below x.nodeFolder).Datable ∨
        x.config.retention.ReachesTooFar now := by
  obtain ⟨-, now', hn', ht⟩ := stores_of_uploaded? hc hup
  obtain rfl := Except.ok.inj (hn.symm.trans hn')
  have hnow : DateTime.ofReading t.world.now = .ok now := by rw [ht.now, hn]
  rw [Executor.Stumbles, Store.stumbles_iff_of_calm (ht.calm hr) hnow, ht.objects]
  rfl

end Accounts

/-! ## Reports that are true -/

namespace Schedule

variable {given : Option Executor} {x : Executor} {r t : Run} {key : String} {content : ByteArray}
  {n k : Nat}

theorem next_ne_self {a : Tally} (h : a = .count n) : a ≠ a.next := by
  rw [h]
  exact fun hn => absurd (Tally.count.inj hn) (by omega)

/-- A cycle that comes to no upload, by `uploaded?`, is reported as it is counted. -/
theorem truthful_of_none (hx : given.or r.executor = some x)
    (hw : r.world.IsUsual x.config.dumpPath) (hfailed : r.metrics.failed = .count n)
    (hsuccessful : r.metrics.successful = .count k) (hup : uploaded? x r = none) :
    Truthful given r := by
  obtain ⟨s, hs, hnoted⟩ := runCycleSafely_on runCycle hx
  obtain ⟨hsame, hcount⟩ := (accounts_runCycle hw).of_none hup
  refine ⟨_, s, hs, ?_, fun hnext => ?_⟩
  · rw [hnoted.metrics, hcount]
    rcases ((runCycle x).on r).1.isOk with _ | _
    · exact iff_of_true rfl rfl
    · exact iff_of_false Bool.noConfusion (next_ne_self hfailed)
  · rw [hnoted.metrics, hsame] at hnext
    exact absurd hnext (next_ne_self hsuccessful)

/-- **A cycle that comes to an upload is reported to be a good one unless its cleanup stumbles**, by
`Executor.Stumbles`, but it is counted as a successful one either way. -/
theorem runCycleSafely_of_some (hx : given.or r.executor = some x)
    (hw : r.world.IsUsual x.config.dumpPath) (hup : uploaded? x r = some (key, content, t)) :
    ∃ good s, (runCycleSafely runCycle given).on r = (.ok good, s) ∧
      (good = false ↔ x.Stumbles t) ∧ s.metrics.successful = r.metrics.successful.next ∧
      s.metrics.failed = r.metrics.failed := by
  obtain ⟨s, hs, hnoted⟩ := runCycleSafely_on runCycle hx
  obtain ⟨hsuccessful, hfailed, hgood⟩ := (accounts_runCycle hw).of_some hup
  exact ⟨_, s, hs, hgood, by rw [hnoted.metrics, hsuccessful], by rw [hnoted.metrics, hfailed]⟩

theorem truthful_of_some (hx : given.or r.executor = some x)
    (hw : r.world.IsUsual x.config.dumpPath) (hfailed : r.metrics.failed = .count n)
    (hup : uploaded? x r = some (key, content, t)) :
    Truthful given r ↔ ¬x.Stumbles t := by
  obtain ⟨good, s, hs, hgood, hsuccessful, hsame⟩ := runCycleSafely_of_some hx hw hup
  constructor
  · rintro ⟨good', s', hs', -, hgood'⟩ hstumbles
    obtain ⟨hok, rfl⟩ := Prod.mk.inj (hs.symm.trans hs')
    obtain rfl := Except.ok.inj hok
    exact absurd ((hgood' hsuccessful).symm.trans (hgood.2 hstumbles)) Bool.noConfusion
  · intro hno
    have htrue : good = true := eq_true_of_ne_false (mt hgood.1 hno)
    refine ⟨good, s, hs, iff_of_false (mt hgood.1 hno) ?_, fun _ => htrue⟩
    rw [hsame]
    exact next_ne_self hfailed

/-- **When a report is true.**  In a usual world, what `runCycleSafely` reports agrees with what was
counted just when no cleanup stumbles behind an upload: the UTC clock can show all times that the
listing comes to, and the period of the policy does not reach back too far. -/
theorem truthful_iff (hx : given.or r.executor = some x) (hw : r.world.IsUsual x.config.dumpPath)
    (hfailed : r.metrics.failed = .count n) (hsuccessful : r.metrics.successful = .count k) :
    Truthful given r ↔
      ∀ key content t, uploaded? x r = some (key, content, t) → ¬x.Stumbles t := by
  rcases hup : uploaded? x r with _ | ⟨key, content, t⟩
  · exact iff_of_true (truthful_of_none hx hw hfailed hsuccessful hup) fun _ _ _ => nofun
  · rw [truthful_of_some hx hw hfailed hup]
    refine ⟨fun hno _ _ _ h => ?_, fun h => h key content t rfl⟩
    cases h
    exact hno

end Schedule

/-! ## Periods that reach back too far -/

/-- The settings of an environment that says nothing but the `period` for which backups are to be
kept. -/
def settingsFor (period : String) : Except ConfigFailure Config :=
  ((Config.load (.ofEntries []) none [("RETENTION_KEEP_DURATION", period)]).run.run []).1

/-- The executor that the settings of `settingsFor` make. -/
def executorFor (period : String) : Executor :=
  let c := (settingsFor period).toOption.getD {}
  ⟨c, ⟨c.storage.kind, c.storage.bucket⟩⟩

/-- The first cycle of a node, with a dump at its usual place. -/
def firstCycle : Run := .holding (.mk #[1]) ⟨1705320000, 0⟩ 1705320005 []

theorem settingsFor_eq_ok {period : String} (h : (settingsFor period).isOk = true) :
    settingsFor period = .ok (executorFor period).config := by
  rw [executorFor]
  rcases hc : settingsFor period with f | c
  · rw [hc] at h
    cases h
  · rfl

theorem isUsual_firstCycle {c : Config} (hpath : c.redis.dataPath = ⟨"/", ["data"]⟩)
    (hname : c.backup.dumpName = "dump.rdb") : firstCycle.world.IsUsual c.dumpPath :=
  World.isUsual_of_holding (find_holding hpath hname _ _) (World.expects_of_calm rfl) rfl rfl

/-- When the cleanup of `firstCycle` stumbles. -/
theorem stumbles_firstCycle_iff {x : Executor} {key : String} {content : ByteArray} {t : Run}
    (hup : uploaded? x firstCycle = some (key, content, t)) :
    x.Stumbles t ↔ x.config.retention.ReachesTooFar ⟨63840916805000000, some 0⟩ := by
  have hnow : DateTime.ofReading firstCycle.world.now = .ok ⟨63840916805000000, some 0⟩ := rfl
  have hchunk : 0 < firstCycle.world.limits.chunk := by decide
  have hdatable := (Objects.datable_nil.put hnow key content).below x.nodeFolder
  rw [stumbles_uploaded?_iff rfl hchunk hnow hup]
  exact or_iff_right (not_not_intro hdatable)

/-- With a period of thirty days the first cycle is reported as it is counted. -/
theorem truthful_firstCycle_month :
    firstCycle.world.IsUsual (executorFor "30d").config.dumpPath ∧
      (uploaded? (executorFor "30d") firstCycle).isSome = true ∧
      Schedule.Truthful (some (executorFor "30d")) firstCycle := by
  have husual : firstCycle.world.IsUsual (executorFor "30d").config.dumpPath :=
    isUsual_firstCycle (by decide +kernel) (by decide +kernel)
  have hperiod : (executorFor "30d").config.retention.keepDuration = some ⟨2592000000000⟩ := by
    decide +kernel
  refine ⟨husual, by decide +kernel,
    (Schedule.truthful_iff (n := 0) (k := 0) rfl husual rfl rfl).2 ?_⟩
  intro key content t hup hstumbles
  obtain ⟨d, hd, -, hfar⟩ := (stumbles_firstCycle_iff hup).1 hstumbles
  obtain rfl := Option.some.inj (hperiod.symm.trans hd)
  exact hfar (by decide)

/-- **A period of eight hundred thousand days is accepted, and ends a successful cycle as a failed
one**: the dump is stored and counted, and `runCycleSafely` reports a failure that no counter knows
of. -/
theorem not_truthful_firstCycle_ages :
    settingsFor "800000d" = .ok (executorFor "800000d").config ∧
      firstCycle.world.IsUsual (executorFor "800000d").config.dumpPath ∧
      (∃ s, (Schedule.runCycleSafely runCycle (some (executorFor "800000d"))).on firstCycle =
          (.ok false, s) ∧ s.metrics.successful = .count 1 ∧ s.metrics.failed = .count 0) ∧
      ¬Schedule.Truthful (some (executorFor "800000d")) firstCycle := by
  have hsettings : (settingsFor "800000d").isOk = true := by decide +kernel
  have husual : firstCycle.world.IsUsual (executorFor "800000d").config.dumpPath :=
    isUsual_firstCycle (by decide +kernel) (by decide +kernel)
  have hperiod : (executorFor "800000d").config.retention.keepDuration =
      some ⟨69120000000000000⟩ := by decide +kernel
  have hsome : (uploaded? (executorFor "800000d") firstCycle).isSome = true := by decide +kernel
  obtain ⟨⟨key, content, t⟩, hup⟩ := Option.isSome_iff_exists.1 hsome
  have hstumbles : (executorFor "800000d").Stumbles t :=
    (stumbles_firstCycle_iff hup).2 ⟨_, hperiod, by decide, by decide⟩
  have hgiven : (some (executorFor "800000d")).or firstCycle.executor =
      some (executorFor "800000d") := rfl
  obtain ⟨good, s, hs, hgood, hsuccessful, hfailed⟩ :=
    Schedule.runCycleSafely_of_some hgiven husual hup
  rw [hgood.2 hstumbles] at hs
  refine ⟨settingsFor_eq_ok hsettings, husual, ⟨s, hs, hsuccessful, hfailed⟩, ?_⟩
  exact fun h => (Schedule.truthful_of_some (n := 0) hgiven husual rfl hup).1 h hstumbles

end DumpKeeper
