import DumpKeeper.Main
import DumpKeeper.Proofs.Loading

/-!
# What is loaded is valid

The settings of a configuration come from a file and from variables, a target even in four different
ways.  Whichever way they came, what holds of any configuration that is loaded is told here.

* `StorageTarget.Fits` — a target has no settings of the other kind of store.
* `BackupSettings.IsValid`, `RetentionSettings.IsValid`, `LoggingSettings.IsValid`,
  `MetricsSettings.IsValid` — what holds of a section, kept by `build` and by `override`.
* `Config.IsValid` — what holds of a configuration, and `Config.isValid_of_loaded`.
* `Act.IsBusy` — an act that never fails for want of a positive interval.  The scheduler is such an
  act for every interval of a second or more.
* `Config.sound_of_loaded` — a configuration that is loaded is valid, and neither its store nor its
  interval is ever refused later on.
-/

set_option autoImplicit false

namespace DumpKeeper

open Conversion

/-! ## Conversions -/

theorem Conversion.toDuration_nonneg {name : String} {v : Value} {d : Duration}
    (h : toDuration name v = .ok d) : 0 ≤ d.micros := by
  have hread : readDuration v = .ok d := by
    rw [toDuration] at h
    split at h
    · cases h
      assumption
    all_goals cases h
  rw [readDuration.eq_def] at hread
  split at hread
  · cases hread
  · split at hread
    · exact Duration.nonneg_of_read hread
    · cases hread

theorem Conversion.le_of_toInterval {name : String} {v : Value} {d : Duration}
    (h : toInterval name v = .ok d) : microsPerSecond ≤ d.micros := by
  obtain ⟨d', -, h⟩ := bind_eq_ok_iff.1 h
  split at h
  · cases h
  · cases h
    omega

theorem Conversion.toPort_bounds {name : String} {v : Value} {n : Int}
    (h : toPort name v = .ok n) : 1 ≤ n ∧ n ≤ 65535 := by
  obtain ⟨m, -, h⟩ := bind_eq_ok_iff.1 h
  split at h
  · cases h
    omega
  · cases h

/-- What holds of a setting so far, `current`, and of whatever a variable may give it holds of the
setting with the variable laid over it, by `orGiven`. -/
theorem orGiven_rule {α : Type} {P : α → Prop} {env : Environment} {name : String} {current a : α}
    {convert : String → Except ConfigFailure α} (h : orGiven env name current convert = .ok a)
    (hcurrent : P current) (hconvert : ∀ s a, convert s = .ok a → P a) : P a := by
  rw [orGiven] at h
  split at h
  · exact hconvert _ _ h
  · cases h
    exact hcurrent

/-! ## Targets -/

/-- The target `t` has no settings of the other kind of store. -/
structure StorageTarget.Fits (t : StorageTarget) : Prop where
  /-- An S3 store has no project. -/
  projectId : t.kind = .s3 → t.projectId = .null
  /-- A GCS store has no region. -/
  region : t.kind = .gcs → t.region = .null
  /-- Nor has it an endpoint. -/
  endpoint : t.kind = .gcs → t.endpoint = .null

namespace StorageTarget

variable {t u : StorageTarget}

/-- Settings that are left out unless they are of the `kind` of the store. -/
theorem fits_of_ite (kind : BackendKind) (bucket folder : String)
    (region endpoint project : Value) :
    StorageTarget.Fits
      { kind := kind, bucket := bucket, folder := folder
        region := if kind = .s3 then region else .null
        endpoint := if kind = .s3 then endpoint else .null
        projectId := if kind = .gcs then project else .null } := by
  cases kind <;> exact ⟨by simp, by simp, by simp⟩

theorem fits_of_ofLocator {v : Value} (h : ofLocator v = .ok t) : t.Fits := by
  obtain ⟨text, -, h⟩ := bind_eq_ok_iff.1 h
  split at h
  · cases h
  split at h
  · cases h
  split at h
  · cases h
  dsimp only at h
  split at h
  · cases h
    exact fits_of_ite _ _ _ _ _ _
  · cases h

/-- **A target with the variables in `env` laid over it has no settings of the other kind**,
whatever the target `t` so far was like: a target of another kind hands nothing on. -/
theorem fits_of_override {env : Environment} (h : t.override env = .ok u) : u.Fits := by
  obtain ⟨kind, -, h⟩ := bind_eq_ok_iff.1 h
  split at h
  · exact fits_of_ofLocator h
  dsimp only at h
  generalize (if t.kind = kind then some t else none : Option StorageTarget) = current at h
  split at h
  · cases h
  cases kind with
  | s3 =>
    cases h
    exact ⟨fun _ => rfl, nofun, nofun⟩
  | gcs =>
    cases h
    exact ⟨nofun, fun _ => rfl, fun _ => rfl⟩

end StorageTarget

/-! ## Sections -/

/-- With the settings `s` backups are a second apart at least, and the delay before the first one is
not negative. -/
structure BackupSettings.IsValid (s : BackupSettings) : Prop where
  interval : microsPerSecond ≤ s.interval.micros
  initialDelay : 0 ≤ s.initialDelay.micros

theorem BackupSettings.isValid_of_build {es : Entries} {s : BackupSettings}
    (h : BackupSettings.build es = .ok s) : s.IsValid := by
  obtain ⟨interval, hi, h⟩ := bind_eq_ok_iff.1 h
  obtain ⟨dumpName, -, h⟩ := bind_eq_ok_iff.1 h
  obtain ⟨delay, hd, h⟩ := bind_eq_ok_iff.1 h
  cases h
  exact ⟨le_of_toInterval hi, toDuration_nonneg hd⟩

theorem BackupSettings.IsValid.override {env : Environment} {s u : BackupSettings}
    (hs : s.IsValid) (h : s.override env = .ok u) : u.IsValid := by
  obtain ⟨interval, hi, h⟩ := bind_eq_ok_iff.1 h
  obtain ⟨dumpName, -, h⟩ := bind_eq_ok_iff.1 h
  obtain ⟨delay, hd, h⟩ := bind_eq_ok_iff.1 h
  cases h
  exact ⟨orGiven_rule (P := fun d : Duration => microsPerSecond ≤ d.micros) hi hs.interval
      fun _ _ => le_of_toInterval,
    orGiven_rule (P := fun d : Duration => 0 ≤ d.micros) hd hs.initialDelay
      fun _ _ => toDuration_nonneg⟩

/-- With the settings `s` neither the number of backups that are kept nor how long they are kept is
negative. -/
structure RetentionSettings.IsValid (s : RetentionSettings) : Prop where
  keepLast : 0 ≤ s.keepLast
  keepDuration : ∀ d, s.keepDuration = some d → 0 ≤ d.micros

/-- A duration that is optional, `keep`, is not negative. -/
theorem Conversion.toDuration_map_nonneg {name : String} {v : Value} {keep : Option Duration}
    (h : (toDuration name v).map some = .ok keep) : ∀ d, keep = some d → 0 ≤ d.micros := by
  rcases hd : toDuration name v with f | d
  · rw [hd] at h
    cases h
  · rw [hd] at h
    cases h
    rintro _ ⟨⟩
    exact toDuration_nonneg hd

theorem RetentionSettings.isValid_of_build {es : Entries} {s : RetentionSettings}
    (h : RetentionSettings.build es = .ok s) : s.IsValid := by
  obtain ⟨keepLast, hk, h⟩ := bind_eq_ok_iff.1 h
  dsimp only at h
  split at h
  · obtain ⟨keep, hd, h⟩ := bind_eq_ok_iff.1 h
    cases h
    exact ⟨toCount_nonneg _ _ _ hk, toDuration_map_nonneg hd⟩
  · cases h
    exact ⟨toCount_nonneg _ _ _ hk, nofun⟩

theorem RetentionSettings.IsValid.override {env : Environment} {s u : RetentionSettings}
    (hs : s.IsValid) (h : s.override env = .ok u) : u.IsValid := by
  obtain ⟨keepLast, hk, h⟩ := bind_eq_ok_iff.1 h
  obtain ⟨keep, hd, h⟩ := bind_eq_ok_iff.1 h
  cases h
  exact ⟨orGiven_rule (P := fun n => 0 ≤ n) hk hs.keepLast fun _ _ => toCount_nonneg _ _ _,
    orGiven_rule (P := fun keep => ∀ d, keep = some d → 0 ≤ d.micros) hd hs.keepDuration
      fun _ _ => toDuration_map_nonneg⟩

/-- With the settings `s` the journal has a format and a level that are known. -/
structure LoggingSettings.IsValid (s : LoggingSettings) : Prop where
  format : s.format ∈ ["text", "json"]
  level : s.level ∈ ["debug", "info", "warn", "warning", "error", "critical"]

theorem mem_of_lookup_isSome {β : Type} {key : String} {entries : List (String × β)}
    (h : (entries.lookup key).isSome) : key ∈ entries.map (·.1) := by
  induction entries with
  | nil => cases h
  | cons e rest ih =>
    rw [List.lookup_cons] at h
    by_cases hk : key = e.1
    · exact hk ▸ List.mem_cons_self
    · rw [beq_false_of_ne hk] at h
      exact List.mem_cons_of_mem _ (ih h)

/-- The journal settings that pass `validate` are valid, and are not changed. -/
theorem LoggingSettings.isValid_of_validate {s u : LoggingSettings} (h : s.validate = .ok u) :
    u.IsValid := by
  rw [LoggingSettings.validate] at h
  split at h
  · cases h
  split at h
  · cases h
  · rename_i hf hl
    cases h
    have hformat : s.format ∈ logFormats := by simpa using hf
    have hlevel : s.level ∈ logLevels.map (·.1) :=
      mem_of_lookup_isSome (by simpa [Option.isSome_iff_ne_none] using hl)
    exact ⟨hformat, hlevel⟩

/-- The format and the level are looked at once more behind the variables: what `override` gives is
valid. -/
theorem LoggingSettings.isValid_of_override {env : Environment} {s u : LoggingSettings}
    (h : s.override env = .ok u) : u.IsValid := by
  obtain ⟨format, -, h⟩ := bind_eq_ok_iff.1 h
  obtain ⟨level, -, h⟩ := bind_eq_ok_iff.1 h
  obtain ⟨file, -, h⟩ := bind_eq_ok_iff.1 h
  exact isValid_of_validate h

/-- With the settings `s` the counters are served at a port that there is. -/
structure MetricsSettings.IsValid (s : MetricsSettings) : Prop where
  port : 1 ≤ s.port ∧ s.port ≤ 65535

theorem MetricsSettings.isValid_of_build {es : Entries} {s : MetricsSettings}
    (h : MetricsSettings.build es = .ok s) : s.IsValid := by
  obtain ⟨enabled, -, h⟩ := bind_eq_ok_iff.1 h
  obtain ⟨port, hp, h⟩ := bind_eq_ok_iff.1 h
  obtain ⟨address, -, h⟩ := bind_eq_ok_iff.1 h
  cases h
  exact ⟨toPort_bounds hp⟩

theorem MetricsSettings.IsValid.override {env : Environment} {s u : MetricsSettings}
    (hs : s.IsValid) (h : s.override env = .ok u) : u.IsValid := by
  obtain ⟨enabled, -, h⟩ := bind_eq_ok_iff.1 h
  obtain ⟨port, hp, h⟩ := bind_eq_ok_iff.1 h
  obtain ⟨address, -, h⟩ := bind_eq_ok_iff.1 h
  cases h
  exact ⟨orGiven_rule (P := fun n => 1 ≤ n ∧ n ≤ 65535) hp hs.port fun _ _ => toPort_bounds⟩

/-! ## Configurations -/

/-- **What holds of the configuration `c`** when it is valid. -/
structure Config.IsValid (c : Config) : Prop where
  /-- The kind of the store goes by one of two names. -/
  kind : c.storage.kind.name = "s3" ∨ c.storage.kind.name = "gcs"
  /-- The target has no settings of the other kind of store. -/
  fits : c.storage.Fits
  /-- The bucket has a name. -/
  bucket : c.storage.bucket ≠ ""
  /-- So has the node. -/
  nodeName : c.redis.nodeName ≠ ""
  /-- So has the dump. -/
  dumpName : c.backup.dumpName ≠ ""
  backup : c.backup.IsValid
  retention : c.retention.IsValid
  logging : c.logging.IsValid
  metrics : c.metrics.IsValid

namespace Config

variable {c d : Config}

/-- The sections of the configuration `c` are valid; nothing is said of its names. -/
structure HasValidSections (c : Config) : Prop where
  backup : c.backup.IsValid
  retention : c.retention.IsValid
  metrics : c.metrics.IsValid

theorem validate_eq_ok (h : c.validate = .ok d) :
    d = c ∧ c.storage.bucket ≠ "" ∧ c.redis.nodeName ≠ "" ∧ c.backup.dumpName ≠ "" := by
  rw [validate] at h
  split at h
  · cases h
  split at h
  · cases h
  split at h
  · cases h
  · rename_i hn hd hb
    cases h
    simp only [String.isEmpty_iff] at hn hd hb
    exact ⟨rfl, hb, hn, hd⟩

/-- Where the sections of a configuration come from, if it is `built` from a file. -/
theorem sections_of_built {raw : Entries} (h : built raw = .ok c) :
    ∃ redis backup storage retention logging metrics : Entries,
      RedisSettings.build redis = .ok c.redis ∧ BackupSettings.build backup = .ok c.backup ∧
      StorageTarget.ofFile backup storage = .ok c.storage ∧
      RetentionSettings.build retention = .ok c.retention ∧
      LoggingSettings.build logging = .ok c.logging ∧
      MetricsSettings.build metrics = .ok c.metrics ∧ c.validate = .ok c := by
  rw [built_eq] at h
  obtain ⟨redis, -, h⟩ := bind_eq_ok_iff.1 h
  obtain ⟨backup, -, h⟩ := bind_eq_ok_iff.1 h
  obtain ⟨storage, -, h⟩ := bind_eq_ok_iff.1 h
  obtain ⟨retention, -, h⟩ := bind_eq_ok_iff.1 h
  obtain ⟨logging, -, h⟩ := bind_eq_ok_iff.1 h
  obtain ⟨metrics, -, h⟩ := bind_eq_ok_iff.1 h
  obtain ⟨redisSettings, hredis, h⟩ := bind_eq_ok_iff.1 h
  obtain ⟨backupSettings, hbackup, h⟩ := bind_eq_ok_iff.1 h
  obtain ⟨target, htarget, h⟩ := bind_eq_ok_iff.1 h
  obtain ⟨retentionSettings, hretention, h⟩ := bind_eq_ok_iff.1 h
  obtain ⟨loggingSettings, hlogging, h⟩ := bind_eq_ok_iff.1 h
  obtain ⟨metricsSettings, hmetrics, h⟩ := bind_eq_ok_iff.1 h
  obtain ⟨rfl, -⟩ := validate_eq_ok h
  exact ⟨redis, backup, storage, retention, logging, metrics, hredis, hbackup, htarget, hretention,
    hlogging, hmetrics, h⟩

/-- The sections of a file, as `built`, are valid. -/
theorem hasValidSections_of_built {raw : Entries} (h : built raw = .ok c) :
    c.HasValidSections := by
  obtain ⟨redis, backup, storage, retention, logging, metrics, -, hbackup, -, hretention, -,
    hmetrics, -⟩ := sections_of_built h
  exact ⟨BackupSettings.isValid_of_build hbackup, RetentionSettings.isValid_of_build hretention,
    MetricsSettings.isValid_of_build hmetrics⟩

/-- With the variables laid over it, by `override`, a configuration whose sections are valid is
valid. -/
theorem HasValidSections.isValid_of_override {env : Environment} (hc : c.HasValidSections)
    (h : c.override env = .ok d) : d.IsValid := by
  obtain ⟨redis, -, h⟩ := bind_eq_ok_iff.1 h
  obtain ⟨backup, hbackup, h⟩ := bind_eq_ok_iff.1 h
  obtain ⟨storage, hstorage, h⟩ := bind_eq_ok_iff.1 h
  obtain ⟨retention, hretention, h⟩ := bind_eq_ok_iff.1 h
  obtain ⟨logging, hlogging, h⟩ := bind_eq_ok_iff.1 h
  obtain ⟨metrics, hmetrics, h⟩ := bind_eq_ok_iff.1 h
  obtain ⟨rfl, hbucket, hnode, hdump⟩ := validate_eq_ok h
  exact {
    kind := by
      dsimp only
      cases storage.kind
      · exact .inl rfl
      · exact .inr rfl
    fits := StorageTarget.fits_of_override hstorage
    bucket := hbucket
    nodeName := hnode
    dumpName := hdump
    backup := hc.backup.override hbackup
    retention := hc.retention.override hretention
    logging := LoggingSettings.isValid_of_override hlogging
    metrics := hc.metrics.override hmetrics }

/-- **What is `loaded` is valid**, from whichever file and whichever variables. -/
theorem isValid_of_loaded {files : FileTree} {path : Option String} {env : Environment}
    (h : loaded files path env = .ok c) : c.IsValid := by
  rw [loaded_eq] at h
  obtain ⟨raw, -, h⟩ := bind_eq_ok_iff.1 h
  obtain ⟨b, hb, h⟩ := bind_eq_ok_iff.1 h
  exact (hasValidSections_of_built hb).isValid_of_override h

end Config

/-! ## Whole seconds -/

theorem Binary64.div_le_roundDiv (n d : Nat) : n / d ≤ roundDiv n d := by
  simp only [roundDiv]
  split
  · exact Nat.le_refl _
  · split <;> omega

/-- The whole part of a quotient is not lost when the quotient is rounded, as `wholePart` does. -/
theorem Duration.div_le_wholePart (n : Nat) : n / microsPerSecond ≤ wholePart n := by
  simp only [wholePart]
  split
  · omega
  · rename_i hq
    generalize hfine : Nat.pow 2 (53 - ((n / microsPerSecond).log2 + 1)) = fine
    have hpos : 0 < fine := hfine ▸ Nat.two_pow_pos _
    have hmul : n / microsPerSecond * fine * microsPerSecond ≤ n * fine := by
      rw [Nat.mul_right_comm]
      exact Nat.mul_le_mul_right _ (Nat.div_mul_le_self _ _)
    have hround : n / microsPerSecond * fine ≤ Binary64.roundDiv (n * fine) microsPerSecond :=
      Nat.le_trans ((Nat.le_div_iff_mul_le (by decide)).2 hmul) (Binary64.div_le_roundDiv _ _)
    exact (Nat.le_div_iff_mul_le hpos).2 hround

/-- A duration of a second or more has `wholeSeconds` above zero. -/
theorem Duration.wholeSeconds_pos {d : Duration} (h : microsPerSecond ≤ d.micros) :
    0 < d.wholeSeconds := by
  have hle := div_le_wholePart d.micros.natAbs
  have hpos : 1 ≤ d.micros.natAbs / microsPerSecond :=
    (Nat.le_div_iff_mul_le (by decide)).2 (by omega)
  rw [wholeSeconds, if_neg (by omega)]
  omega

/-! ## Intervals that are never refused -/

/-- The failure `f` is for want of a positive interval. -/
def Failure.IsIdle (f : Failure) : Prop := ∃ shown, f = .config (.idleInterval shown)

/-- The failure `f` is one of the configuration. -/
def Failure.IsConfig (f : Failure) : Prop := ∃ e, f = .config e

theorem Failure.IsIdle.isConfig {f : Failure} (h : f.IsIdle) : f.IsConfig := by
  obtain ⟨shown, rfl⟩ := h
  exact ⟨_, rfl⟩

namespace Act

variable {α β : Type} {P : Failure → Prop}

/-- The act `t` never fails for want of a positive interval. -/
def IsBusy (t : Act α) : Prop := ∀ r, t.Ends r (fun _ _ => True) fun f _ => ¬ f.IsIdle

/-- An act that never fails in some ways; a busy one is one of those (`IsBusy` unfolds to it). -/
def Avoids (P : Failure → Prop) (t : Act α) : Prop :=
  ∀ r, t.Ends r (fun _ _ => True) fun f _ => ¬ P f

theorem Avoids.pure (a : α) : Act.Avoids P (pure a) := fun _ => Ends.pure trivial

theorem Avoids.fail {f : Failure} (h : ¬ P f) : Act.Avoids P (fail f : Act α) :=
  fun _ => Ends.fail h

theorem Avoids.bind {t : Act α} {f : α → Act β} (h : t.Avoids P) (hf : ∀ a, (f a).Avoids P) :
    Act.Avoids P (t >>= f) := fun r => (h r).bind fun a s _ => hf a s

theorem Avoids.get_bind {f : Run → Act β} (h : ∀ r, (f r).Avoids P) :
    Act.Avoids P (get >>= f) :=
  fun r => Ends.get_bind (h r r)

theorem Avoids.ite {c : Prop} [Decidable c] {t u : Act α} (ht : t.Avoids P) (hu : u.Avoids P) :
    Act.Avoids P (if c then t else u) := by
  split
  · exact ht
  · exact hu

/-- What cannot fail at all avoids whatever `P` says of failures. -/
theorem Avoids.of_on {t : Act α} (h : ∀ r, ∃ a s, t.on r = (.ok a, s)) : t.Avoids P := fun r => by
  obtain ⟨a, s, ht⟩ := h r
  exact ends_of_ok ht trivial

theorem IsAside.avoids {t : Act α} (h : t.IsAside) : t.Avoids P := fun r =>
  (h r).mono (fun _ _ _ => trivial) fun _ _ hf => hf.elim

theorem avoids_modify (g : Run → Run) : Act.Avoids P (modify g) := .of_on fun r => ⟨(), g r, rfl⟩

/-- A failure that is handed over, by `attempt`, is none. -/
theorem avoids_attempt (t : Act α) : (attempt t).Avoids P := .of_on fun r => ⟨_, _, on_attempt t r⟩

theorem avoids_request (hP : ∀ f, P f → f.IsConfig) (c : Call) : (request c).Avoids P := fun r =>
  (request_ends c r).mono (fun _ _ _ => trivial) fun f _ hf h => by
    obtain ⟨-, -, g, rfl⟩ := hf
    obtain ⟨_, ⟨⟩⟩ := hP _ h

theorem Avoids.forM {f : β → Act Unit} {items : List β} (h : ∀ b ∈ items, (f b).Avoids P) :
    (items.forM f).Avoids P :=
  forM_induction (.pure ()) (fun _ _ ht hu => ht.bind fun _ => hu) h

theorem isBusy_modify (g : Run → Run) : Act.IsBusy (modify g) := avoids_modify g

end Act

namespace Schedule

open Act

variable {cycle : Executor → Act (Option String)} {listens : Bool} {c : Course}
  {interval : Duration} {P : Failure → Prop}

/-- There is a `nextTick` of any interval that is positive, unless no date has its year. -/
theorem not_isConfig_of_nextTick {seconds : Int} (h : 0 < seconds) {now : Reading} {f : TickFault}
    (hf : nextTick seconds now = .error f) : ¬ (ofTickFault f).IsConfig := by
  rcases f with interval | t
  · rw [nextTick, secondsUntilTick, if_neg (by omega)] at hf
    rcases hw : now.wholeSeconds with t | n
    · rw [hw] at hf
      cases hf
    · rw [hw] at hf
      change (DateTime.ofUnixSeconds _).mapError TickFault.time = _ at hf
      generalize DateTime.ofUnixSeconds _ = tick at hf
      cases tick <;> cases hf
  · rintro ⟨_, ⟨⟩⟩

section

variable (hP : ∀ f, P f → f.IsConfig)

include hP

/-- What is no failure of the configuration, by `IsConfig`, is avoided. -/
theorem avoids_fail {α : Type} {f : Failure} (h : ¬ f.IsConfig) : (fail f : Act α).Avoids P :=
  .fail fun hf => h (hP f hf)

theorem avoids_setUp (h : 0 < interval.wholeSeconds) (x : Executor) (now : Option Reading) :
    (setUp x interval now).Avoids P := by
  refine .get_bind fun r => .ite (.pure ()) ?_
  rcases hn : nextTick interval.wholeSeconds (now.getD r.world.now) with f | first
  · exact avoids_fail hP (not_isConfig_of_nextTick h hn)
  refine (avoids_modify _).bind fun _ => (avoids_request hP _).bind fun _ =>
    (avoids_modify _).bind fun _ => ?_
  rcases backupJob? interval first with _ | job
  · exact avoids_fail hP nofun
  · exact (avoids_request hP _).bind fun _ => avoids_modify _

theorem avoids_start : start.Avoids P := by
  refine .get_bind fun r => ?_
  rcases r.timer with _ | t
  · exact avoids_fail hP nofun
  · refine .ite (isAside_say _ _ _).avoids ?_
    exact (avoids_request hP _).bind fun _ => (avoids_modify _).bind fun _ =>
      .forM fun j _ => (isAside_say _ _ _).avoids

theorem avoids_stop : stop.Avoids P := by
  refine .get_bind fun r => .ite ?_ (avoids_modify _)
  exact (avoids_request hP _).bind fun _ => (isAside_say _ _ _).avoids.bind fun _ => avoids_modify _

/-- Whatever a `cycle` fails with, it is noted. -/
theorem avoids_runCycleSafely (cycle : Executor → Act (Option String)) (given : Option Executor) :
    (runCycleSafely cycle given).Avoids P := by
  refine .get_bind fun r => ?_
  rcases given.or r.executor with _ | x
  · exact avoids_fail hP nofun
  refine (avoids_attempt _).bind fun result => ?_
  rcases result with f | _ | key
  · exact (isAside_say _ _ _).avoids.bind fun _ => .pure _
  · exact (isAside_say _ _ _).avoids.bind fun _ => .pure _
  · exact .ite ((isAside_say _ _ _).avoids.bind fun _ => .pure _)
      ((isAside_say _ _ _).avoids.bind fun _ => .pure _)

omit hP in
theorem avoids_heed (listens : Bool) (s : Stop) : (heed listens s).Avoids P := by
  cases s with
  | direct => exact .pure _
  | signal name => exact .ite ((isAside_say _ _ _).avoids.bind fun _ => .pure _) (.pure _)

omit hP in
theorem avoids_heedAny (listens : Bool) (stop? : Option Stop) :
    (heedAny listens stop?).Avoids P := by
  rcases stop? with _ | s
  · exact .pure _
  · exact avoids_heed listens s

theorem avoids_waitDelay (listens : Bool) (delay : Duration) (h : c.meanwhile.Avoids P) :
    (waitDelay listens c delay).Avoids P := by
  refine (avoids_heedAny _ _).bind fun asked => (avoids_request hP _).bind fun _ => ?_
  refine .ite (.pure _) ?_
  have hbegun : Act.Avoids P (do c.meanwhile; heedAny listens c.duringDelay) :=
    h.bind fun _ => avoids_heedAny _ _
  have hfail : (fail (.broken .outOfRange) : Act Unit).Avoids P := avoids_fail hP nofun
  exact .ite (hfail.bind fun _ => hbegun) hbegun

theorem avoids_waitTicks (h : ∀ before ∈ c.ticks, Act.Avoids P before) :
    (waitTicks cycle listens c).Avoids P := by
  refine (avoids_request hP _).bind fun _ => Avoids.bind (.forM fun before hb => ?_) fun _ =>
    (avoids_heed listens _).bind fun _ => .pure _
  exact (h before hb).bind fun _ => (avoids_runCycleSafely hP cycle none).bind fun _ =>
    avoids_modify _

omit hP in
theorem avoids_thenAlways {α : Type} {t : Act α} {last : Act Unit} (ht : t.Avoids P)
    (hlast : last.Avoids P) : (thenAlways t last).Avoids P := by
  intro r
  refine Ends.attempt (ht r) (fun a s _ => ?_) fun f s hf => ?_
  · exact (hlast s).bind fun _ u _ => Ends.pure trivial
  · exact (hlast s).bind fun _ u _ => Ends.fail hf

/-- **`Schedule.run` never fails for the configuration** when there are whole seconds between its
ticks, unless what happens while it waits is to blame. -/
theorem avoids_run (h : 0 < interval.wholeSeconds) (hc : ∀ act ∈ c.acts, Act.Avoids P act)
    (x : Executor) (delay : Duration) (once : Bool) :
    (run cycle listens c x interval delay once).Avoids P := by
  obtain ⟨hmeanwhile, hticks⟩ := List.forall_mem_cons.1 hc
  have hrest : Act.Avoids P (if once then runCycleSafely cycle (some x)
      else do
        setUp x interval none
        start
        thenAlways (waitTicks cycle listens c) stop
        return true) :=
    .ite (avoids_runCycleSafely hP cycle _) ((avoids_setUp hP h x none).bind fun _ =>
      (avoids_start hP).bind fun _ =>
        (avoids_thenAlways (avoids_waitTicks hP hticks) (avoids_stop hP)).bind fun _ => .pure _)
  rw [run, if_neg (by omega)]
  refine .ite ?_ hrest
  refine (isAside_say _ _ _).avoids.bind fun _ =>
    (avoids_waitDelay hP listens delay hmeanwhile).bind fun stopped => ?_
  exact .ite ((isAside_say _ _ _).avoids.bind fun _ => .pure _) hrest

end

/-- **`Schedule.run` is never idle**, unless what happens while it waits is to blame. -/
theorem isBusy_run (h : 0 < interval.wholeSeconds) (hc : ∀ act ∈ c.acts, Act.IsBusy act)
    (x : Executor) (delay : Duration) (once : Bool) :
    (run cycle listens c x interval delay once).IsBusy :=
  avoids_run (fun _ => Failure.IsIdle.isConfig) h hc x delay once

end Schedule

/-! ## Stores of targets -/

/-- The `name` of the kind of a target is one that is known. -/
theorem BackendKind.ofName_name (k : BackendKind) : BackendKind.ofName k.name = .ok k := by
  rw [BackendKind.ofName, BackendKind.named?_name]

/-- To `connect` to the store of a target may fail, but not for want of a kind of store. -/
theorem Store.connect_ends (t : StorageTarget) (r : Run) :
    (Store.connect t).Ends r (fun s _ => s = ⟨t.kind, t.bucket⟩)
      fun f _ => ∀ name, f ≠ .unknownKind name := by
  refine Act.Ends.attempt (Act.request_ends _ r) (fun _ s _ => Act.Ends.pure rfl) ?_
  rintro _ s ⟨-, -, g, rfl⟩
  dsimp only
  split
  · exact Act.Ends.fail nofun
  · exact Act.Ends.fail nofun

/-! ## What is loaded can be used -/

/-- **A configuration that is loaded is valid and can be used**: it is valid in all of its settings,
its kind of store is known, so that `Store.connect` never fails for want of one, and its interval is
never refused by `Schedule.run`. -/
theorem Config.sound_of_loaded {files : FileTree} {path : Option String} {env : Environment}
    {c : Config} (h : Config.loaded files path env = .ok c) :
    c.IsValid ∧
    BackendKind.ofName c.storage.kind.name = .ok c.storage.kind ∧
    (∀ r s name, (Store.connect c.storage).on r ≠ (.error (.unknownKind name), s)) ∧
    ∀ cycle listens (course : Schedule.Course) x delay once,
      (∀ act ∈ course.acts, Act.IsBusy act) →
      ∀ r s shown, (Schedule.run cycle listens course x c.backup.interval delay once).on r ≠
        (.error (.config (.idleInterval shown)), s) := by
  have hvalid := Config.isValid_of_loaded h
  refine ⟨hvalid, BackendKind.ofName_name _, fun r s name hs => ?_, ?_⟩
  · exact (Store.connect_ends c.storage r).of_error hs name rfl
  · intro cycle listens course x delay once hcourse r s shown hs
    have hpos := Duration.wholeSeconds_pos hvalid.backup.interval
    exact (Schedule.isBusy_run hpos hcourse x delay once r).of_error hs ⟨shown, rfl⟩

/-- A file that describes a store of one kind, and variables that ask for the other. -/
def mixedSettings : Except ConfigFailure Config :=
  Config.ofText "backup:\n  interval: 1500ms\nstorage:\n  type: gs\n  bucket: b\n  project_id: p\n"
    [("STORAGE_TYPE", "S3"), ("S3_BUCKET", "c"), ("GCS_PROJECT_ID", "q")]

/-- The project of the file and that of the variables are both left out, and the scheduler takes the
interval. -/
theorem sound_mixedSettings :
    mixedSettings = .ok (Config.orDefault mixedSettings) ∧
    (Config.orDefault mixedSettings).storage.kind = .s3 ∧
    (Config.orDefault mixedSettings).storage.projectId = .null ∧
    (Config.orDefault mixedSettings).backup.interval = ⟨1500000⟩ ∧
    ∀ x r s shown,
      (Schedule.run runCycle true { ticks := [changeWorld (·.change (.now (.whole 7200)))] } x
        (Config.orDefault mixedSettings).backup.interval ⟨0⟩ false).on r ≠
          (.error (.config (.idleInterval shown)), s) := by
  have hok : mixedSettings = .ok (Config.orDefault mixedSettings) :=
    Config.eq_ok_orDefault (by decide +kernel)
  have hkind : (Config.orDefault mixedSettings).storage.kind = .s3 := by decide +kernel
  obtain ⟨hvalid, -, -, hrun⟩ := Config.sound_of_loaded hok
  refine ⟨hok, hkind, hvalid.fits.projectId hkind, by decide +kernel, fun x r s shown => ?_⟩
  refine hrun runCycle true { ticks := [_] } x ⟨0⟩ false ?_ r s shown
  exact List.forall_mem_cons.2
    ⟨Act.Avoids.pure (), List.forall_mem_singleton.2 (Act.isBusy_modify _)⟩

end DumpKeeper
