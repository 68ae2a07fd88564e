import DumpKeeper.Proofs.Validity

/-!
# Variables laid over a configuration

The variables of the environment are a layer above the settings of the file.  Each of them belongs
to one section of the configuration, and a section with its variables laid over it depends on these
only, whatever becomes of the others.

* `Environment.AgreesOn` — two environments in which some variables are given alike.
* `ConfigSection` — the sections, with their variables, their settings and the way in which the one
  are laid over the other.
* `Config.override_eq_ok_iff` — a configuration is laid over section by section.
* `Config.LayersWell` — the laws of layers: no variables change nothing, the same variables change
  nothing the second time, an empty variable is none, and sections do not mix.
* `Config.layersWell_of_built` — they hold of every configuration that comes from a file.
-/

set_option autoImplicit false

namespace DumpKeeper

variable {env env' : Environment}

/-! ## Variables -/

/-- The variables in `names` are given alike in `env` and `env'`. -/
def Environment.AgreesOn (env : Environment) (names : List String) (env' : Environment) : Prop :=
  ∀ name ∈ names, given? env name = given? env' name

theorem Environment.AgreesOn.mono {names names' : List String} (h : env.AgreesOn names' env')
    (hsub : names ⊆ names') : env.AgreesOn names env' := fun name hname => h name (hsub hname)

/-- The environment `env`, but the variable `name` is not set. -/
def Environment.unset (env : Environment) (name : String) : Environment :=
  env.filter fun e => e.1 != name

/-- The environment `env`, but the variable `name` is set to `text`. -/
def Environment.set (env : Environment) (name text : String) : Environment :=
  (name, text) :: env.unset name

/-- The variable `name`, set to nothing, is not given. -/
theorem agreesOn_set_empty (env : Environment) (name : String) (names : List String) :
    (env.set name "").AgreesOn names (env.unset name) := by
  intro other _
  rw [given?, given?, Environment.set, List.lookup_cons]
  by_cases h : other = name
  · subst h
    have hnone : (env.unset other).lookup other = none := by
      refine List.lookup_eq_none_iff.2 fun e he => ?_
      rw [bne_comm]
      exact (List.mem_filter.1 he).2
    rw [beq_self_eq_true, hnone]
    rfl
  · rw [beq_false_of_ne h]

theorem orGiven_congr {α : Type} {name : String} (h : given? env name = given? env' name)
    (current : α) (convert : String → Except ConfigFailure α) :
    orGiven env name current convert = orGiven env' name current convert := by
  rw [orGiven, h, orGiven]

/-- The setting that `orGiven` has replaced by a variable is replaced by the same once more. -/
theorem orGiven_again {α : Type} {name : String} {current a : α}
    {convert : String → Except ConfigFailure α} (h : orGiven env name current convert = .ok a) :
    orGiven env name a convert = .ok a := by
  rw [orGiven] at h ⊢
  rcases hgiven : given? env name with _ | text
  · rfl
  · rw [hgiven] at h
    exact h

/-! ## Sections with their variables laid over them -/

namespace RedisSettings

variable {s u : RedisSettings}

/-- The variables of the node. -/
def ownVariables : List String :=
  ["REDIS_CONNECTION", "REDIS_DATA_PATH", "REDIS_NODE_NAME", "BACKUP_MASTER", "BACKUP_REPLICA"]

theorem override_congr (h : env.AgreesOn ownVariables env') (s : RedisSettings) :
    s.override env = s.override env' := by
  rw [override, override, orGiven_congr (h "REDIS_CONNECTION" (by decide)),
    orGiven_congr (h "REDIS_DATA_PATH" (by decide)),
    orGiven_congr (h "REDIS_NODE_NAME" (by decide)), orGiven_congr (h "BACKUP_MASTER" (by decide)),
    orGiven_congr (h "BACKUP_REPLICA" (by decide))]

theorem override_again (h : s.override env = .ok u) : u.override env = .ok u := by
  obtain ⟨connection, hconnection, h⟩ := bind_eq_ok_iff.1 h
  obtain ⟨dataPath, hdataPath, h⟩ := bind_eq_ok_iff.1 h
  obtain ⟨nodeName, hnodeName, h⟩ := bind_eq_ok_iff.1 h
  obtain ⟨backupMaster, hmaster, h⟩ := bind_eq_ok_iff.1 h
  obtain ⟨backupReplica, hreplica, h⟩ := bind_eq_ok_iff.1 h
  cases h
  rw [override, orGiven_again hconnection, orGiven_again hdataPath, orGiven_again hnodeName,
    orGiven_again hmaster, orGiven_again hreplica]
  rfl

end RedisSettings

namespace BackupSettings

variable {s u : BackupSettings}

/-- The variables of the backups. -/
def ownVariables : List String := ["BACKUP_INTERVAL", "DUMP_FILENAME", "INITIAL_DELAY"]

theorem override_congr (h : env.AgreesOn ownVariables env') (s : BackupSettings) :
    s.override env = s.override env' := by
  rw [override, override, orGiven_congr (h "BACKUP_INTERVAL" (by decide)),
    orGiven_congr (h "DUMP_FILENAME" (by decide)), orGiven_congr (h "INITIAL_DELAY" (by decide))]

theorem override_again (h : s.override env = .ok u) : u.override env = .ok u := by
  obtain ⟨interval, hinterval, h⟩ := bind_eq_ok_iff.1 h
  obtain ⟨dumpName, hdumpName, h⟩ := bind_eq_ok_iff.1 h
  obtain ⟨initialDelay, hdelay, h⟩ := bind_eq_ok_iff.1 h
  cases h
  rw [override, orGiven_again hinterval, orGiven_again hdumpName, orGiven_again hdelay]
  rfl

end BackupSettings

/-! ### Targets -/

/-- The variables in `env` name the kind of store, or they leave it as it is. -/
theorem targetKind_cases (env : Environment) :
    (∃ e, ∀ current, targetKind env current = e) ∨
      ∀ current, targetKind env current = .ok current := by
  rcases htype : given? env "STORAGE_TYPE" with _ | text
  · rcases hgcs : (given? env "GCS_BUCKET").isSome with _ | _
    · rcases hs3 : (given? env "S3_BUCKET").isSome with _ | _
      · exact .inr fun current => by simp [targetKind, htype, hgcs, hs3]
      · exact .inl ⟨.ok .s3, fun current => by simp [targetKind, htype, hgcs, hs3]⟩
    · exact .inl ⟨.ok .gcs, fun current => by simp [targetKind, htype, hgcs]⟩
  · exact .inl ⟨targetKind env .s3, fun current => by simp [targetKind, htype]⟩

theorem targetKind_again {current kind : BackendKind} (h : targetKind env current = .ok kind) :
    targetKind env kind = .ok kind := by
  obtain ⟨e, he⟩ | hid := targetKind_cases env
  · rw [he] at h ⊢
    exact h
  · exact hid kind

/-- Whether `targetKind` tells the kind of store does not depend on the one so far. -/
theorem exists_targetKind {current kind : BackendKind} (h : targetKind env current = .ok kind)
    (other : BackendKind) : ∃ kind', targetKind env other = .ok kind' := by
  obtain ⟨e, he⟩ | hid := targetKind_cases env
  · exact ⟨kind, by rw [he, ← he current, h]⟩
  · exact ⟨other, hid other⟩

theorem orCurrent_again (env : Environment) (name : String) (current : Value) :
    orCurrent env name (orCurrent env name current) = orCurrent env name current := by
  rw [orCurrent, orCurrent]
  rcases given? env name with _ | text <;> rfl

theorem orCurrent_congr {name : String} (h : given? env name = given? env' name)
    (current : Value) : orCurrent env name current = orCurrent env' name current := by
  rw [orCurrent, h, orCurrent]

/-- The variables of a kind of store. -/
def BackendKind.ownVariables : BackendKind → List String
  | .s3 => ["S3_BUCKET", "S3_PREFIX", "AWS_REGION", "S3_ENDPOINT"]
  | .gcs => ["GCS_BUCKET", "GCS_PREFIX", "GCS_PROJECT_ID"]

namespace StorageTarget

variable {t u : StorageTarget}

/-- The variables of the target. -/
def ownVariables : List String :=
  ["STORAGE_TYPE", "STORAGE_URL", "S3_BUCKET", "S3_PREFIX", "AWS_REGION", "S3_ENDPOINT",
   "GCS_BUCKET", "GCS_PREFIX", "GCS_PROJECT_ID"]

/-- The target of the `kind` that the variables in `env` describe; what they leave open is taken
from `current`, a target of this kind, if there is one. -/
def ofVariables (env : Environment) (kind : BackendKind) (current : Option StorageTarget) :
    Except ConfigFailure StorageTarget :=
  let bucket :=
    (given? env (kind.capitals ++ "_BUCKET")).getD ((current.map (·.bucket)).getD "")
  if bucket.isEmpty then Conversion.refuse (.bucketVariable kind)
  else
    let folder :=
      (given? env (kind.capitals ++ "_PREFIX")).getD ((current.map (·.folder)).getD defaultFolder)
    let kept (get : StorageTarget → Value) : Value := (current.map get).getD .null
    match kind with
    | .gcs =>
      .ok { kind := kind, bucket := bucket, folder := folder,
            projectId := orCurrent env "GCS_PROJECT_ID" (kept (·.projectId)) }
    | .s3 =>
      .ok { kind := kind, bucket := bucket, folder := folder,
            region := orCurrent env "AWS_REGION" (kept (·.region)),
            endpoint := orCurrent env "S3_ENDPOINT" (kept (·.endpoint)) }

/-- A locator goes before the other variables in `env`. -/
theorem override_eq (env : Environment) (t : StorageTarget) :
    t.override env = (do
      let kind ← targetKind env t.kind
      match given? env "STORAGE_URL" with
      | some text => ofLocator (.text text)
      | none => ofVariables env kind (if t.kind = kind then some t else none)) := rfl

theorem ofVariables_congr {kind : BackendKind} (h : env.AgreesOn kind.ownVariables env')
    (current : Option StorageTarget) :
    ofVariables env kind current = ofVariables env' kind current := by
  cases kind with
  | s3 =>
    simp only [ofVariables, show BackendKind.s3.capitals = "S3" from rfl,
      h ("S3" ++ "_BUCKET") (by decide), h ("S3" ++ "_PREFIX") (by decide),
      orCurrent_congr (h "AWS_REGION" (by decide)), orCurrent_congr (h "S3_ENDPOINT" (by decide))]
  | gcs =>
    simp only [ofVariables, show BackendKind.gcs.capitals = "GCS" from rfl,
      h ("GCS" ++ "_BUCKET") (by decide), h ("GCS" ++ "_PREFIX") (by decide),
      orCurrent_congr (h "GCS_PROJECT_ID" (by decide))]

theorem override_congr (h : env.AgreesOn ownVariables env') (t : StorageTarget) :
    t.override env = t.override env' := by
  have hkind : targetKind env t.kind = targetKind env' t.kind := by
    rw [targetKind, targetKind, h "STORAGE_TYPE" (by decide), h "GCS_BUCKET" (by decide),
      h "S3_BUCKET" (by decide)]
  have hown : ∀ kind : BackendKind, kind.ownVariables ⊆ ownVariables := by
    intro kind
    cases kind <;> decide
  rw [override_eq, override_eq, hkind, h "STORAGE_URL" (by decide)]
  refine bind_congr fun kind => ?_
  rw [ofVariables_congr (h.mono (hown kind))]

theorem ofVariables_again {kind : BackendKind} {current : Option StorageTarget}
    (h : ofVariables env kind current = .ok u) :
    u.kind = kind ∧ ofVariables env kind (some u) = .ok u := by
  have hsame : ∀ (given : Option String) (s : String),
      given.getD (given.getD s) = given.getD s := fun given s => by cases given <;> rfl
  rw [ofVariables] at h
  split at h
  · cases h
  rename_i hbucket
  cases kind with
  | s3 =>
    cases h
    refine ⟨rfl, ?_⟩
    simp only [ofVariables, Option.map_some, Option.getD_some, hsame, if_neg hbucket,
      orCurrent_again]
  | gcs =>
    cases h
    refine ⟨rfl, ?_⟩
    simp only [ofVariables, Option.map_some, Option.getD_some, hsame, if_neg hbucket,
      orCurrent_again]

theorem override_again (h : t.override env = .ok u) : u.override env = .ok u := by
  rw [override_eq] at h ⊢
  obtain ⟨kind, hkind, h⟩ := bind_eq_ok_iff.1 h
  rcases hurl : given? env "STORAGE_URL" with _ | text
  · rw [hurl] at h
    obtain ⟨rfl, hagain⟩ := ofVariables_again h
    rw [targetKind_again hkind]
    exact (congrArg _ (if_pos rfl)).trans hagain
  · rw [hurl] at h
    obtain ⟨kind', hkind'⟩ := exists_targetKind hkind u.kind
    rw [hkind']
    exact h

theorem fits_of_ofFile {backup storage : Entries} (h : ofFile backup storage = .ok t) : t.Fits := by
  rw [ofFile] at h
  split at h
  · exact fits_of_ofLocator h
  obtain ⟨kind, -, h⟩ := bind_eq_ok_iff.1 h
  obtain ⟨bucket, -, h⟩ := bind_eq_ok_iff.1 h
  obtain ⟨folder, -, h⟩ := bind_eq_ok_iff.1 h
  cases h
  exact fits_of_ite _ _ _ _ _ _

/-- Without variables, the target `t` is made anew from itself; what does not fit its kind would be
left out. -/
theorem override_nil (h : t.Fits) (hbucket : t.bucket ≠ "") : t.override [] = .ok t := by
  have hempty : t.bucket.isEmpty = false := by
    rw [← Bool.not_eq_true, String.isEmpty_iff]
    exact hbucket
  have hvariables : ofVariables [] t.kind (some t) = .ok t := by
    obtain ⟨kind, bucket, folder, region, endpoint, projectId⟩ := t
    have hif : ¬bucket.isEmpty = true := by simpa using hempty
    rw [ofVariables]
    cases kind with
    | s3 =>
      obtain rfl : projectId = .null := h.projectId rfl
      exact if_neg hif
    | gcs =>
      obtain rfl : region = .null := h.region rfl
      obtain rfl : endpoint = .null := h.endpoint rfl
      exact if_neg hif
  exact (congrArg _ (if_pos rfl)).trans hvariables

end StorageTarget

namespace RetentionSettings

variable {s u : RetentionSettings}

/-- The variables of the retention. -/
def ownVariables : List String := ["RETENTION_KEEP_LAST", "RETENTION_KEEP_DURATION"]

theorem override_congr (h : env.AgreesOn ownVariables env') (s : RetentionSettings) :
    s.override env = s.override env' := by
  rw [override, override, orGiven_congr (h "RETENTION_KEEP_LAST" (by decide)),
    orGiven_congr (h "RETENTION_KEEP_DURATION" (by decide))]

theorem override_again (h : s.override env = .ok u) : u.override env = .ok u := by
  obtain ⟨keepLast, hlast, h⟩ := bind_eq_ok_iff.1 h
  obtain ⟨keepDuration, hduration, h⟩ := bind_eq_ok_iff.1 h
  cases h
  rw [override, orGiven_again hlast, orGiven_again hduration]
  rfl

end RetentionSettings

namespace LoggingSettings

variable {s u : LoggingSettings}

/-- The variables of the journal. -/
def ownVariables : List String := ["LOG_FORMAT", "LOG_LEVEL", "LOG_FILE"]

theorem override_congr (h : env.AgreesOn ownVariables env') (s : LoggingSettings) :
    s.override env = s.override env' := by
  rw [override, override, orGiven_congr (h "LOG_FORMAT" (by decide)),
    orGiven_congr (h "LOG_LEVEL" (by decide)), orGiven_congr (h "LOG_FILE" (by decide))]

/-- The settings `s`, if they pass, are not changed by `validate`. -/
theorem eq_of_validate (h : s.validate = .ok u) : u = s := by
  rw [validate] at h
  split at h
  · cases h
  split at h
  · cases h
  · exact (Except.ok.inj h).symm

theorem override_again (h : s.override env = .ok u) : u.override env = .ok u := by
  obtain ⟨format, hformat, h⟩ := bind_eq_ok_iff.1 h
  obtain ⟨level, hlevel, h⟩ := bind_eq_ok_iff.1 h
  obtain ⟨file, hfile, h⟩ := bind_eq_ok_iff.1 h
  obtain rfl := eq_of_validate h
  rw [override, orGiven_again hformat, orGiven_again hlevel, orGiven_again hfile]
  exact h

end LoggingSettings

namespace MetricsSettings

variable {s u : MetricsSettings}

/-- The variables of the counters. -/
def ownVariables : List String := ["METRICS_ENABLED", "METRICS_PORT", "METRICS_LISTEN_ADDRESS"]

theorem override_congr (h : env.AgreesOn ownVariables env') (s : MetricsSettings) :
    s.override env = s.override env' := by
  rw [override, override, orGiven_congr (h "METRICS_ENABLED" (by decide)),
    orGiven_congr (h "METRICS_PORT" (by decide)),
    orGiven_congr (h "METRICS_LISTEN_ADDRESS" (by decide))]

theorem override_again (h : s.override env = .ok u) : u.override env = .ok u := by
  obtain ⟨enabled, henabled, h⟩ := bind_eq_ok_iff.1 h
  obtain ⟨port, hport, h⟩ := bind_eq_ok_iff.1 h
  obtain ⟨address, haddress, h⟩ := bind_eq_ok_iff.1 h
  cases h
  rw [override, orGiven_again henabled, orGiven_again hport, orGiven_again haddress]
  rfl

end MetricsSettings

/-! ## The sections of a configuration -/

/-- The sections of a configuration. -/
inductive ConfigSection where
  | redis
  | backup
  | storage
  | retention
  | logging
  | metrics
  deriving DecidableEq, Repr

namespace ConfigSection

/-- The type of the settings of a section. -/
@[reducible]
def Settings : ConfigSection → Type
  | redis => RedisSettings
  | backup => BackupSettings
  | storage => StorageTarget
  | retention => RetentionSettings
  | logging => LoggingSettings
  | metrics => MetricsSettings

/-- The settings of the section `s` in the configuration `c`. -/
def of (c : Config) : (s : ConfigSection) → s.Settings
  | redis => c.redis
  | backup => c.backup
  | storage => c.storage
  | retention => c.retention
  | logging => c.logging
  | metrics => c.metrics

/-- The variables of a section. -/
def ownVariables : ConfigSection → List String
  | redis => RedisSettings.ownVariables
  | backup => BackupSettings.ownVariables
  | storage => StorageTarget.ownVariables
  | retention => RetentionSettings.ownVariables
  | logging => LoggingSettings.ownVariables
  | metrics => MetricsSettings.ownVariables

/-- The settings of the section `s` with the variables in `env` laid over them. -/
def override (env : Environment) :
    (s : ConfigSection) → s.Settings → Except ConfigFailure s.Settings
  | redis => RedisSettings.override env
  | backup => BackupSettings.override env
  | storage => StorageTarget.override env
  | retention => RetentionSettings.override env
  | logging => LoggingSettings.override env
  | metrics => MetricsSettings.override env

/-- Every one of `variableNames` belongs to one section. -/
theorem flatMap_ownVariables :
    [redis, backup, storage, retention, logging, metrics].flatMap ownVariables = variableNames :=
  rfl

variable {s : ConfigSection}

/-- **The section `s` depends on its own variables only.** -/
theorem override_congr (h : env.AgreesOn s.ownVariables env') (x : s.Settings) :
    s.override env x = s.override env' x := by
  cases s with
  | redis => exact RedisSettings.override_congr h x
  | backup => exact BackupSettings.override_congr h x
  | storage => exact StorageTarget.override_congr h x
  | retention => exact RetentionSettings.override_congr h x
  | logging => exact LoggingSettings.override_congr h x
  | metrics => exact MetricsSettings.override_congr h x

/-- **The same variables change nothing the second time** in the section `s`. -/
theorem override_again {x y : s.Settings} (h : s.override env x = .ok y) :
    s.override env y = .ok y := by
  cases s with
  | redis => exact RedisSettings.override_again h
  | backup => exact BackupSettings.override_again h
  | storage => exact StorageTarget.override_again h
  | retention => exact RetentionSettings.override_again h
  | logging => exact LoggingSettings.override_again h
  | metrics => exact MetricsSettings.override_again h

end ConfigSection

/-! ## Configurations -/

namespace Config

variable {c d : Config}

/-- **A configuration is laid over section by section**, and then its names are looked at by
`validate`. -/
theorem override_eq_ok_iff :
    c.override env = .ok d ↔
      (∀ s : ConfigSection, s.override env (s.of c) = .ok (s.of d)) ∧ d.validate = .ok d := by
  constructor
  · intro h
    obtain ⟨redis, hredis, h⟩ := bind_eq_ok_iff.1 h
    obtain ⟨backup, hbackup, h⟩ := bind_eq_ok_iff.1 h
    obtain ⟨storage, hstorage, h⟩ := bind_eq_ok_iff.1 h
    obtain ⟨retention, hretention, h⟩ := bind_eq_ok_iff.1 h
    obtain ⟨logging, hlogging, h⟩ := bind_eq_ok_iff.1 h
    obtain ⟨metrics, hmetrics, h⟩ := bind_eq_ok_iff.1 h
    obtain ⟨rfl, -⟩ := validate_eq_ok h
    refine ⟨fun s => ?_, h⟩
    cases s with
    | redis => exact hredis
    | backup => exact hbackup
    | storage => exact hstorage
    | retention => exact hretention
    | logging => exact hlogging
    | metrics => exact hmetrics
  · rintro ⟨h, hvalid⟩
    exact bind_eq_ok_iff.2 ⟨_, h .redis, bind_eq_ok_iff.2 ⟨_, h .backup, bind_eq_ok_iff.2 ⟨_,
      h .storage, bind_eq_ok_iff.2 ⟨_, h .retention, bind_eq_ok_iff.2 ⟨_, h .logging,
        bind_eq_ok_iff.2 ⟨_, h .metrics, hvalid⟩⟩⟩⟩⟩⟩

/-- **Nothing but `variableNames` is looked at** when variables are laid over `c`. -/
theorem override_congr (h : env.AgreesOn variableNames env') (c : Config) :
    c.override env = c.override env' := by
  rw [override, override, RedisSettings.override_congr (h.mono (by decide)),
    BackupSettings.override_congr (h.mono (by decide)),
    StorageTarget.override_congr (h.mono (by decide)),
    RetentionSettings.override_congr (h.mono (by decide)),
    LoggingSettings.override_congr (h.mono (by decide)),
    MetricsSettings.override_congr (h.mono (by decide))]

/-- What makes `c` a configuration that no variables change: a target that fits its kind, and
settings that pass. -/
structure IsSettled (c : Config) : Prop where
  fits : c.storage.Fits
  bucket : c.storage.bucket ≠ ""
  logging : c.logging.validate = .ok c.logging
  names : c.validate = .ok c

/-- What comes from the file `raw` is settled. -/
theorem isSettled_of_built {raw : Entries} (h : built raw = .ok c) : c.IsSettled := by
  obtain ⟨_, _, _, _, _, _, -, -, htarget, -, hlogging, -, hvalid⟩ := sections_of_built h
  obtain ⟨format, -, hlogging⟩ := bind_eq_ok_iff.1 hlogging
  obtain ⟨level, -, hlogging⟩ := bind_eq_ok_iff.1 hlogging
  obtain ⟨-, hbucket, -⟩ := validate_eq_ok hvalid
  refine ⟨StorageTarget.fits_of_ofFile htarget, hbucket, ?_, hvalid⟩
  rw [← LoggingSettings.eq_of_validate hlogging] at hlogging
  exact hlogging

theorem IsSettled.override_nil (hc : c.IsSettled) : c.override [] = .ok c := by
  refine override_eq_ok_iff.2 ⟨fun s => ?_, hc.names⟩
  cases s with
  | storage => exact StorageTarget.override_nil hc.fits hc.bucket
  | logging => exact hc.logging
  | _ => rfl

/-- **The laws of layers**, for variables above the configuration `c`. -/
structure LayersWell (c : Config) : Prop where
  /-- No variables change nothing. -/
  unset : c.override [] = .ok c
  /-- The same variables change nothing the second time. -/
  again : ∀ env d, c.override env = .ok d → d.override env = .ok d
  /-- A variable that is empty has the outcome of one that is not set. -/
  blank : ∀ (env : Environment) (name : String),
    c.override (env.set name "") = c.override (env.unset name)
  /-- Where the variables of a section are given alike, its settings come out alike, whatever the
  other variables are. -/
  apart : ∀ (env env' : Environment) (d d' : Config) (s : ConfigSection),
    c.override env = .ok d → c.override env' = .ok d' → env.AgreesOn s.ownVariables env' →
      s.of d = s.of d'

/-- **Variables are laid well over whatever comes from a file**, by `LayersWell`. -/
theorem layersWell_of_built {raw : Entries} (h : built raw = .ok c) : c.LayersWell where
  unset := (isSettled_of_built h).override_nil
  again env d hd := by
    obtain ⟨hsections, hnames⟩ := override_eq_ok_iff.1 hd
    exact override_eq_ok_iff.2 ⟨fun s => s.override_again (hsections s), hnames⟩
  blank env name := override_congr (agreesOn_set_empty env name variableNames) c
  apart env env' d d' s hd hd' henv := by
    have hs := (override_eq_ok_iff.1 hd).1 s
    have hs' := (override_eq_ok_iff.1 hd').1 s
    rw [ConfigSection.override_congr henv, hs'] at hs
    exact (Except.ok.inj hs).symm

/-- A file whose target has a `project_id` that is no text. -/
def projectSettings : Entries :=
  [(.text "storage",
    .map [(.text "type", .text "gs"), (.text "bucket", .text "b"), (.text "project_id", .int 0)])]

/-- Above `projectSettings`, variables that ask for the other kind of store lead away from it, and
lead nowhere else the second time. -/
theorem layersWell_projectSettings :
    built projectSettings = .ok (orDefault (built projectSettings)) ∧
      (orDefault (built projectSettings)).storage.kind = .gcs ∧
      (orDefault (built projectSettings)).LayersWell ∧
      ∃ d, (orDefault (built projectSettings)).override [("S3_BUCKET", "c")] = .ok d ∧
        d.storage.kind = .s3 ∧ d.override [("S3_BUCKET", "c")] = .ok d := by
  have hok : built projectSettings = .ok (orDefault (built projectSettings)) :=
    eq_ok_orDefault (by decide +kernel)
  have hlayers := layersWell_of_built hok
  have hd := eq_ok_orDefault (e := (orDefault (built projectSettings)).override
    [("S3_BUCKET", "c")]) (by decide +kernel)
  exact ⟨hok, by decide +kernel, hlayers, _, hd, by decide +kernel, hlayers.again _ _ hd⟩

end Config

end DumpKeeper
