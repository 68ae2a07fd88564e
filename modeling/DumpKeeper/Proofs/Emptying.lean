import DumpKeeper.Proofs.Layers
import DumpKeeper.Proofs.Partition

/-!
# Policies that keep nothing

A policy without a count and without a period deletes every backup there is, and whoever sets it is
warned when the settings are loaded.  Three places have to agree about such policies: the settings,
where a period may be left out or be of no length, the partition, which keeps nothing, and the
warning.

* `RetentionSettings.KeepsNothing` — the policy as the partition sees it, and
  `deletesEverything_iff_keepsNothing`, which says that the settings see the same.
* `writtenPeriod`, `Value.SpellsNoPeriod` — the period as it is written, in the file or as a
  variable, and `hasPeriod_eq_false_iff` about what comes of it.
* `Journaled.Writes`, `Journaled.Warns` — what a computation writes to the journal, and which of it
  is the warning.
* `Config.warned_exactly` — who is warned, and when.
-/

set_option autoImplicit false

namespace DumpKeeper

open Conversion Journaled

variable {policy : RetentionSettings} {now : DateTime}

/-! ## Policies that keep nothing -/

/-- The `policy` keeps nothing at the time `now`: whatever is listed, as long as the times can be
compared with one another, is parted by `partition`, and every record of it is to be deleted. -/
def RetentionSettings.KeepsNothing (policy : RetentionSettings) (now : DateTime) : Prop :=
  ∀ records, comparable (comparedTimes records policy now) = true →
    ∃ plan, partition records policy.keepLast policy.keepDuration now = .ok plan ∧
      plan.kept = [] ∧ plan.toDelete.Perm records

namespace RetentionSettings

theorem deletesEverything_iff :
    policy.deletesEverything = true ↔ policy.keepLast = 0 ∧ policy.hasPeriod = false := by
  rw [deletesEverything, hasPeriod, Bool.and_eq_true, beq_iff_eq]
  rcases policy.keepDuration with _ | d
  · simp [Duration.isZero]
  · simp

/-- Without a period, `policy` keeps nothing for its time. -/
theorem not_covers (h : policy.hasPeriod = false) (a : Record) : ¬policy.Covers now a := by
  rintro ⟨d, hd, hz, -⟩
  simp [hasPeriod, hd, hz] at h

/-- A period of `policy` that has a length covers what is of the same time as the clock. -/
theorem covers_now (hvalid : policy.IsValid) (h : policy.hasPeriod = true) {a : Record}
    (ha : a.time = now) : policy.Covers now a := by
  rw [hasPeriod, Option.any_eq_true] at h
  obtain ⟨d, hd, hz⟩ := h
  have hz : d.isZero = false := by simpa using hz
  have hlow := hvalid.keepDuration d hd
  rw [Duration.isZero, beq_eq_false_iff_ne] at hz
  exact ⟨d, hd, by rw [Duration.isZero, beq_eq_false_iff_ne]; exact hz, by rw [ha]; omega⟩

/-- With neither a count nor a period, `policy` keeps no place. -/
theorem keepsNothing_of_deletesEverything (hnear : ¬policy.ReachesTooFar now)
    (h : policy.deletesEverything = true) : policy.KeepsNothing now := by
  obtain ⟨hlast, hperiod⟩ := deletesEverything_iff.1 h
  intro records hcomp
  obtain ⟨plan, hplan, hdivides⟩ := exists_divides hnear hcomp
  have hkeep : plan.keep = [] := by
    refine List.eq_nil_iff_forall_not_mem.2 fun i hi => ?_
    have hlow := (hdivides.places i).1 (.inl hi)
    rcases (hdivides.mem_keep i _ (List.getElem?_eq_getElem hlow)).1 hi with hcount | hcovers
    · omega
    · exact not_covers hperiod _ hcovers
  have hkept : plan.kept = [] := by rw [Partition.kept, Partition.select, hkeep]; rfl
  refine ⟨plan, hplan, hkept, ?_⟩
  have happend := hdivides.append
  rw [hkept, List.nil_append] at happend
  exact happend ▸ hdivides.perm

/-- The time of the record `a` can be compared with a clock that shows the same. -/
theorem comparable_now {a : Record} (ha : a.time = now) :
    comparable (comparedTimes [a] policy now) = true := by
  have hsame : ∀ t ∈ comparedTimes [a] policy now, t = now := by
    intro t ht
    rw [comparedTimes] at ht
    split at ht <;> simp_all
  rw [comparable, Bool.or_eq_true, List.all_eq_true, List.all_eq_true]
  rcases hoffset : now.offset with _ | o
  · exact .inr fun t ht => by rw [hsame t ht, hoffset]; rfl
  · exact .inl fun t ht => by rw [hsame t ht, hoffset]; rfl

/-- A `policy` that does not delete everything keeps a record of the very time of the clock, if that
is the only one. -/
theorem keeps_now (hvalid : policy.IsValid) (hnear : ¬policy.ReachesTooFar now)
    (h : policy.deletesEverything = false) {a : Record} (ha : a.time = now) :
    ∃ plan, partition [a] policy.keepLast policy.keepDuration now = .ok plan ∧
      plan.kept = [a] := by
  obtain ⟨plan, hplan, hdivides⟩ := exists_divides hnear (comparable_now ha)
  have hrecords : plan.records = [a] := List.perm_singleton.1 hdivides.perm
  have hfirst : 0 ∈ plan.keep := by
    refine (hdivides.mem_keep 0 a (by rw [hrecords]; rfl)).2 ?_
    rcases hperiod : policy.hasPeriod with _ | _
    · have hlast : policy.keepLast ≠ 0 := fun hlast => by
        rw [deletesEverything_iff.2 ⟨hlast, hperiod⟩] at h
        cases h
      have hlow := hvalid.keepLast
      exact .inl (by omega)
    · exact .inr (covers_now hvalid hperiod ha)
  have hmem : a ∈ plan.kept := List.mem_filterMap.2 ⟨0, hfirst, by rw [hrecords]; rfl⟩
  refine ⟨plan, hplan, ?_⟩
  rcases List.append_eq_singleton_iff.1 (hdivides.append.trans hrecords) with
    ⟨hkept, -⟩ | ⟨hkept, -⟩
  · rw [hkept] at hmem
    cases hmem
  · exact hkept

/-- **A policy `deletesEverything` just when it keeps nothing of any listing.** -/
theorem deletesEverything_iff_keepsNothing (hvalid : policy.IsValid)
    (hnear : ¬policy.ReachesTooFar now) :
    policy.deletesEverything = true ↔ policy.KeepsNothing now := by
  refine ⟨keepsNothing_of_deletesEverything hnear, fun hnothing => ?_⟩
  by_contra hsome
  obtain ⟨plan, hplan, hkept⟩ :=
    keeps_now (a := ⟨"", now, 0⟩) hvalid hnear (Bool.eq_false_iff.2 hsome) rfl
  obtain ⟨plan', hplan', hnone, -⟩ := hnothing [⟨"", now, 0⟩] (comparable_now rfl)
  obtain rfl : plan = plan' := Except.ok.inj (hplan.symm.trans hplan')
  rw [hkept] at hnone
  cases hnone

end RetentionSettings

/-! ## Periods as they are written -/

theorem Conversion.toDuration_eq_ok_iff {name : String} {v : Value} {d : Duration} :
    toDuration name v = .ok d ↔ readDuration v = .ok d := by
  rw [toDuration]
  split
  · rename_i hread
    rw [hread, Except.ok.injEq, Except.ok.injEq]
  all_goals
    rename_i hread
    rw [hread]
    exact iff_of_false (fun h => by cases h) fun h => by cases h

/-- The period of a policy as it is written: in a variable of `env` if that is given, and else in
the section `es` of the file. -/
def writtenPeriod (env : Environment) (es : Entries) : Value :=
  ((given? env "RETENTION_KEEP_DURATION").map Value.text).getD (setting es "keep_duration" .null)

/-- What is written, `v`, is nothing, or a period of no length. -/
def Value.SpellsNoPeriod (v : Value) : Prop :=
  v.truthy = false ∨ readDuration v = .ok ⟨0⟩

namespace RetentionSettings

/-- A period that `toDuration` makes of `v` has a length unless `v` spells it otherwise. -/
theorem hasPeriod_of_toDuration {name : String} {v : Value} (hv : v.truthy = true)
    (h : (toDuration name v).map some = .ok policy.keepDuration) :
    policy.hasPeriod = false ↔ v.SpellsNoPeriod := by
  rcases hd : toDuration name v with f | d
  · rw [hd] at h
    cases h
  rw [hd] at h
  have hkeep : policy.keepDuration = some d := (Except.ok.inj h).symm
  rw [hasPeriod, hkeep, Value.SpellsNoPeriod, hv, toDuration_eq_ok_iff.1 hd]
  obtain ⟨micros⟩ := d
  simp [Duration.isZero]

theorem hasPeriod_of_build {es : Entries} (h : RetentionSettings.build es = .ok policy) :
    policy.hasPeriod = false ↔ (setting es "keep_duration" .null).SpellsNoPeriod := by
  obtain ⟨keepLast, -, h⟩ := bind_eq_ok_iff.1 h
  dsimp only at h
  split at h
  · rename_i hv
    obtain ⟨keep, hkeep, h⟩ := bind_eq_ok_iff.1 h
    cases h
    exact hasPeriod_of_toDuration hv hkeep
  · rename_i hv
    cases h
    exact iff_of_true rfl (.inl (Bool.eq_false_iff.2 hv))

/-- **A policy has no period just when none is written**, by `Value.SpellsNoPeriod`. -/
theorem hasPeriod_eq_false_iff {env : Environment} {es : Entries} {s : RetentionSettings}
    (hbuild : RetentionSettings.build es = .ok s) (h : s.override env = .ok policy) :
    policy.hasPeriod = false ↔ (writtenPeriod env es).SpellsNoPeriod := by
  obtain ⟨keepLast, -, h⟩ := bind_eq_ok_iff.1 h
  obtain ⟨keep, hkeep, h⟩ := bind_eq_ok_iff.1 h
  cases h
  rw [writtenPeriod]
  rw [orGiven] at hkeep
  split at hkeep
  · rename_i text hgiven
    rw [hgiven]
    have htext : (Value.text text).truthy = true := by
      rw [given?, Option.filter_eq_some_iff] at hgiven
      exact hgiven.2
    exact hasPeriod_of_toDuration htext hkeep
  · rename_i hgiven
    rw [hgiven]
    cases hkeep
    show s.hasPeriod = false ↔ _
    exact hasPeriod_of_build hbuild

end RetentionSettings

/-- Nought is no period, in whichever unit `text` gives it. -/
theorem spellsNoPeriod_nought {text : String} (h : text ∈ ["0", "0s", "0ms"]) :
    (Value.text text).SpellsNoPeriod := by
  have hread : ∀ text ∈ ["0", "0s", "0ms"],
      (readDuration (.text text)).toOption = some ⟨0⟩ := by decide +kernel
  have htext := hread text h
  rcases hd : readDuration (.text text) with e | d
  · rw [hd] at htext
    cases htext
  · rw [hd] at htext
    exact .inr (hd.trans (congrArg Except.ok (Option.some.inj htext)))

/-! ## What is written while loading -/

namespace Journaled

variable {ε α β : Type} {P : Entry → Prop} {t : Journaled ε α} {f : α → Journaled ε β}

/-- What the computation `t` writes goes behind what is in the journal, and `P` holds of every entry
of it. -/
def Writes (P : Entry → Prop) (t : Journaled ε α) : Prop :=
  ∀ j, ∃ k, (t.run.run j).2 = j ++ k ∧ ∀ e ∈ k, P e

theorem writes_of_silent (h : ∀ j, (t.run.run j).2 = j) : Writes P t := fun j =>
  ⟨[], (h j).trans (List.append_nil j).symm, List.forall_mem_nil P⟩

theorem writes_pure (a : α) : Writes P (pure a : Journaled ε α) := writes_of_silent fun _ => rfl

theorem writes_throw (e : ε) : Writes P (throw e : Journaled ε α) := writes_of_silent fun _ => rfl

theorem writes_liftM (e : Except ε α) : Writes P (liftM e : Journaled ε α) :=
  writes_of_silent fun _ => by cases e <;> rfl

theorem writes_note {level : Level} {source : Source} {message : String}
    (h : P ⟨level, source, message⟩) :
    Writes P (note level source message : Journaled ε Unit) := fun _ =>
  ⟨[⟨level, source, message⟩], rfl, fun _ he => List.mem_singleton.1 he ▸ h⟩

theorem Writes.bind (ht : t.Writes P) (hf : ∀ a, (f a).Writes P) : Writes P (t >>= f) := by
  intro j
  obtain ⟨k, hk, hall⟩ := ht j
  rw [run_bind_eq_match]
  rcases hrun : t.run.run j with ⟨e | a, j'⟩
  · rw [hrun] at hk
    exact ⟨k, hk, hall⟩
  · rw [hrun] at hk
    obtain ⟨k', hk', hall'⟩ := hf a j'
    refine ⟨k ++ k', ?_, fun e he => (List.mem_append.1 he).elim (hall e) (hall' e)⟩
    rw [← List.append_assoc, ← hk]
    exact hk'

theorem Writes.liftM_bind {e : Except ε α} (hf : ∀ a, (f a).Writes P) :
    Writes P (liftM e >>= f) := (writes_liftM e).bind hf

theorem Writes.ite {c : Prop} [Decidable c] {t u : Journaled ε α} (ht : t.Writes P)
    (hu : u.Writes P) : Writes P (if c then t else u) := by
  split
  · exact ht
  · exact hu

end Journaled

/-- The entry `e` does not say that every backup would be deleted. -/
def Entry.IsHarmless (e : Entry) : Prop := e.message ≠ deletesEverythingWarning

theorem toList_head?_deletesEverythingWarning :
    deletesEverythingWarning.toList.head? = some 'R' := by decide +kernel

/-- The warning is told from other texts by its first character, `c`. -/
theorem Entry.isHarmless_append {level : Level} {source : Source} {text rest : String} {c : Char}
    (h : text.toList.head? = some c) (hc : c ≠ 'R') :
    Entry.IsHarmless ⟨level, source, text ++ rest⟩ := by
  intro heq
  have hhead := toList_head?_deletesEverythingWarning
  rw [← heq, String.toList_append, List.head?_append, h, Option.some_or] at hhead
  exact hc (Option.some.inj hhead)

theorem StorageTarget.writes_build (es : Entries) :
    (StorageTarget.build es).Writes Entry.IsHarmless := by
  refine .liftM_bind fun text => ?_
  dsimp only
  split
  · exact writes_throw _
  refine .ite ((writes_note ?_).bind fun _ => ?_) ?_
  · rw [String.append_assoc, String.append_assoc]
    exact Entry.isHarmless_append (c := 'I') (by decide +kernel) (by decide)
  · exact .liftM_bind fun _ => .liftM_bind fun _ => writes_pure _
  · exact .liftM_bind fun _ => .liftM_bind fun _ => writes_pure _

theorem Config.writes_build (raw : Entries) : (Config.build raw).Writes Entry.IsHarmless := by
  refine .liftM_bind fun _ => .liftM_bind fun backup => .liftM_bind fun _ => .liftM_bind fun _ =>
    .liftM_bind fun _ => .liftM_bind fun _ => .liftM_bind fun _ => .liftM_bind fun _ => ?_
  refine .ite (.liftM_bind fun _ => ?_) ((StorageTarget.writes_build _).bind fun _ => ?_)
  · exact .liftM_bind fun _ => .liftM_bind fun _ => .liftM_bind fun _ => writes_liftM _
  · exact .liftM_bind fun _ => .liftM_bind fun _ => .liftM_bind fun _ => writes_liftM _

/-- The entry that says that every backup would be deleted. -/
def deletesEverythingEntry : Entry := ⟨.warning, .config, deletesEverythingWarning⟩

/-- The computation `t` answers `a`, and of what it writes to the journal the entries in `said`, and
no others, say that every backup would be deleted. -/
def Journaled.Warns {ε α : Type} (said : List Entry) (a : α) (t : Journaled ε α) : Prop :=
  ∀ j, ∃ k, t.run.run j = (.ok a, j ++ k) ∧
    (k.filter fun e => e.message == deletesEverythingWarning) = said

theorem filter_of_isHarmless {k : Journal} (h : ∀ e ∈ k, e.IsHarmless) :
    (k.filter fun e => e.message == deletesEverythingWarning) = [] :=
  List.filter_eq_nil_iff.2 fun e he heq => h e he (eq_of_beq heq)

/-- What `t` writes before is of no account if it is harmless. -/
theorem Journaled.Warns.after {ε α β : Type} {t : Journaled ε α} {f : α → Journaled ε β} {a : α}
    {b : β} {said : List Entry} (ht : t.Writes Entry.IsHarmless) (hsteady : t.IsSteady)
    (ha : t.answer = .ok a) (hf : (f a).Warns said b) : Warns said b (t >>= f) := by
  intro j
  obtain ⟨k, hk, hharmless⟩ := ht j
  obtain ⟨k', hk', hsaid⟩ := hf (j ++ k)
  refine ⟨k ++ k', ?_, by rw [List.filter_append, filter_of_isHarmless hharmless, hsaid]; rfl⟩
  have hrun : t.run.run j = (.ok a, j ++ k) := Prod.ext ((hsteady j).trans ha) hk
  rw [run_bind_eq_match, hrun, ← List.append_assoc]
  exact hk'

namespace Config

variable {files : FileTree} {path : Option String} {env : Environment} {raw : Entries} {c : Config}

/-- The warning of the configuration `c`, if its policy deletes everything. -/
def warnings (c : Config) : List Entry :=
  if c.retention.deletesEverything then [deletesEverythingEntry] else []

theorem warns_finish (h : Config.built raw >>= Config.override env = .ok c) :
    (Config.finish env raw).Warns c.warnings c := by
  obtain ⟨b, hb, hc⟩ := bind_eq_ok_iff.1 h
  refine .after (writes_build raw) (isSteady_build raw) hb ?_
  refine .after (writes_liftM _) (isSteady_liftM _) ((answer_liftM _).trans hc) fun j => ?_
  rw [warnings]
  split
  · exact ⟨[deletesEverythingEntry], rfl, by simp [deletesEverythingEntry]⟩
  · exact ⟨[], by rw [List.append_nil]; rfl, rfl⟩

/-- **Loading warns once, or not at all**, by the configuration `c` that comes of it. -/
theorem warns_load (h : Config.loaded files path env = .ok c) :
    (Config.load files path env).Warns c.warnings c := by
  rw [loaded_eq] at h
  obtain ⟨raw, hraw, h⟩ := bind_eq_ok_iff.1 h
  have hnone : ∀ shown : String, raw = [] → Warns c.warnings c (do
      note .warning .config ("No config file found at " ++ shown ++ ", using defaults")
      Config.finish env []) := by
    rintro shown rfl
    refine .after (a := ()) (writes_note ?_) (isSteady_note _ _ _) rfl (warns_finish h)
    rw [String.append_assoc]
    exact Entry.isHarmless_append (c := 'N') (by decide +kernel) (by decide)
  have hsome : ∀ p shown, Config.fromFile files p = .ok raw → Warns c.warnings c (do
      note .info .config ("Loading configuration from file: " ++ shown)
      let raw ← liftM (Config.fromFile files p)
      Config.finish env raw) := by
    intro p shown hp
    refine .after (a := ()) (writes_note ?_) (isSteady_note _ _ _) rfl ?_
    · exact Entry.isHarmless_append (c := 'L') (by decide +kernel) (by decide)
    · exact .after (writes_liftM _) (isSteady_liftM _) ((answer_liftM _).trans hp) (warns_finish h)
  rw [Config.entries] at hraw
  rw [Config.load]
  dsimp only
  generalize (path.filter fun s => !s.isEmpty).map FilePath.ofString = place at hraw ⊢
  rcases place with _ | p
  · exact hnone _ (Except.ok.inj hraw).symm
  revert hraw
  dsimp only
  rcases files.isThere p with f | _ | _
  · intro hraw
    cases hraw
  · exact fun hraw => hnone _ (Except.ok.inj hraw).symm
  · exact hsome p _

/-! ## Who is warned -/

/-- What is right about the warning that comes with `c`, loaded from the file at `path` and the
variables in `env`. -/
structure IsRightlyWarned (files : FileTree) (path : Option String) (env : Environment)
    (c : Config) : Prop where
  /-- The warning is written once if the policy deletes everything, and else not at all. -/
  warns : (Config.load files path env).Warns c.warnings c
  /-- That is the policy that keeps nothing of any listing, at whatever time. -/
  keepsNothing : ∀ now, ¬c.retention.ReachesTooFar now →
    (c.retention.deletesEverything = true ↔ c.retention.KeepsNothing now)
  /-- It has no count, and what is written for its period in the file and the variables is nothing
  or a period of no length. -/
  written : ∃ raw es, Config.entries files path = .ok raw ∧
    settingsOf raw "retention" = .ok es ∧
    (c.retention.deletesEverything = true ↔
      c.retention.keepLast = 0 ∧ (writtenPeriod env es).SpellsNoPeriod)

theorem retention_of_built (h : built raw = .ok c) :
    ∃ es, settingsOf raw "retention" = .ok es ∧ RetentionSettings.build es = .ok c.retention := by
  rw [built_eq] at h
  obtain ⟨redis, -, h⟩ := bind_eq_ok_iff.1 h
  obtain ⟨backup, -, h⟩ := bind_eq_ok_iff.1 h
  obtain ⟨storage, -, h⟩ := bind_eq_ok_iff.1 h
  obtain ⟨es, hes, h⟩ := bind_eq_ok_iff.1 h
  obtain ⟨logging, -, h⟩ := bind_eq_ok_iff.1 h
  obtain ⟨metrics, -, h⟩ := bind_eq_ok_iff.1 h
  obtain ⟨redisSettings, -, h⟩ := bind_eq_ok_iff.1 h
  obtain ⟨backupSettings, -, h⟩ := bind_eq_ok_iff.1 h
  obtain ⟨target, -, h⟩ := bind_eq_ok_iff.1 h
  obtain ⟨retention, hretention, h⟩ := bind_eq_ok_iff.1 h
  obtain ⟨loggingSettings, -, h⟩ := bind_eq_ok_iff.1 h
  obtain ⟨metricsSettings, -, h⟩ := bind_eq_ok_iff.1 h
  obtain ⟨rfl, -⟩ := validate_eq_ok h
  exact ⟨es, hes, hretention⟩

/-- The policy of `c`, which is loaded, deletes everything just when nothing else is written. -/
theorem deletesEverything_of_loaded (h : Config.loaded files path env = .ok c) :
    ∃ raw es, Config.entries files path = .ok raw ∧ settingsOf raw "retention" = .ok es ∧
      (c.retention.deletesEverything = true ↔
        c.retention.keepLast = 0 ∧ (writtenPeriod env es).SpellsNoPeriod) := by
  rw [loaded_eq] at h
  obtain ⟨raw, hraw, h⟩ := bind_eq_ok_iff.1 h
  obtain ⟨b, hb, h⟩ := bind_eq_ok_iff.1 h
  obtain ⟨es, hes, hbuild⟩ := retention_of_built hb
  have hover : b.retention.override env = .ok c.retention :=
    (override_eq_ok_iff.1 h).1 .retention
  refine ⟨raw, es, hraw, hes, ?_⟩
  rw [RetentionSettings.deletesEverything_iff,
    RetentionSettings.hasPeriod_eq_false_iff hbuild hover]

/-- **The warning is exact.**  A valid policy `deletesEverything` just when `partition` keeps
nothing of any listing, and whoever loads a configuration is warned once if its policy is such a
one, and is not warned otherwise.  A period written as nought is none. -/
theorem warned_exactly :
    (∀ policy now, RetentionSettings.IsValid policy → ¬policy.ReachesTooFar now →
      (policy.deletesEverything = true ↔ policy.KeepsNothing now)) ∧
    (∀ text ∈ ["0", "0s", "0ms"], (Value.text text).SpellsNoPeriod) ∧
    ∀ files path env c, Config.loaded files path env = .ok c → IsRightlyWarned files path env c :=
  ⟨fun _ _ => RetentionSettings.deletesEverything_iff_keepsNothing,
    fun _ => spellsNoPeriod_nought, fun _ _ _ _ h => {
      warns := warns_load h
      keepsNothing := fun _ =>
        RetentionSettings.deletesEverything_iff_keepsNothing (isValid_of_loaded h).retention
      written := deletesEverything_of_loaded h }⟩

/-- A file with a count of nought and a period. -/
def noughtFile : FileTree :=
  .ofEntries [(["config.yaml"],
    .file "retention:\n  keep_last: 0\n  keep_duration: 7d\n".toUTF8 ⟨0, 0⟩)]

/-- The configuration of `noughtFile` and of a variable that puts the period at nought. -/
def noughtSettings : Except ConfigFailure Config :=
  Config.loaded noughtFile (some "config.yaml") [("RETENTION_KEEP_DURATION", "0ms")]

/-- In `noughtSettings` the variable switches the period off, and so the warning on. -/
theorem warned_noughtSettings :
    noughtSettings = .ok (orDefault noughtSettings) ∧
      (orDefault noughtSettings).retention.deletesEverything = true ∧
      (orDefault noughtSettings).retention.KeepsNothing noon ∧
      (Config.load noughtFile (some "config.yaml") [("RETENTION_KEEP_DURATION", "0ms")]).Warns
        [deletesEverythingEntry] (orDefault noughtSettings) := by
  have hok : noughtSettings = .ok (orDefault noughtSettings) := eq_ok_orDefault (by decide +kernel)
  have hall : (orDefault noughtSettings).retention.deletesEverything = true := by decide +kernel
  have hnear : ¬(orDefault noughtSettings).retention.ReachesTooFar noon := by
    rintro ⟨d, hd, hz, -⟩
    have hnone := (RetentionSettings.deletesEverything_iff.1 hall).2
    simp [RetentionSettings.hasPeriod, hd, hz] at hnone
  have hright := warned_exactly.2.2 _ _ _ _ hok
  have hwarns := hright.warns
  rw [warnings, if_pos hall] at hwarns
  exact ⟨hok, hall, (hright.keepsNothing noon hnear).1 hall, hwarns⟩

end Config

end DumpKeeper
