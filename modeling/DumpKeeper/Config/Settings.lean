import DumpKeeper.FilePath
import DumpKeeper.Value

/-!
# Settings

Everything that can be set, with what holds when nothing is said.

* `BackendKind`, `StorageTarget` — where backups go.
* `RedisSettings`, `BackupSettings`, `RetentionSettings`, `LoggingSettings`, `MetricsSettings` — the
  sections.
* `Config` — all of them together.
* `Config.dumpPath`, `StorageTarget.cleanFolder`, `RetentionSettings.deletesEverything`,
  `RedisSettings.roleMatters` — what follows from them.
-/

set_option autoImplicit false

namespace DumpKeeper

/-- The kinds of object stores. -/
inductive BackendKind where
  | s3
  | gcs
  deriving DecidableEq, Repr, Inhabited

/-- The name of a kind of store. -/
def BackendKind.name : BackendKind → String
  | .s3 => "s3"
  | .gcs => "gcs"

/-- The kind of store that goes by `name`. -/
def BackendKind.named? (name : String) : Option BackendKind :=
  if name = "s3" then some .s3 else if name = "gcs" then some .gcs else none

theorem BackendKind.named?_name (k : BackendKind) : named? k.name = some k := by
  cases k <;> rfl

/-- The bucket and folder when none is set. -/
def defaultFolder : String := "redis-vault"

/-- The text `s` without the slashes at its end. -/
def dropEndSlashes (s : String) : String :=
  String.ofList ((s.toList.reverse.dropWhile (· == '/')).reverse)

/-- Where backups go.  Region and endpoint belong to one kind of store, the project to the other;
`null` leaves the choice to the store's own settings. -/
structure StorageTarget where
  kind : BackendKind := .s3
  bucket : String := defaultFolder
  folder : String := defaultFolder
  region : Value := .null
  endpoint : Value := .null
  projectId : Value := .null
  deriving Inhabited

/-- The folder that keys begin with in the target `t`, without slashes at its end. -/
def StorageTarget.cleanFolder (t : StorageTarget) : String :=
  dropEndSlashes t.folder

/-- How the Redis node is reached and known. -/
structure RedisSettings where
  connection : String := "redis://localhost:6379"
  dataPath : FilePath := ⟨"/", ["data"]⟩
  nodeName : String := "redis-node"
  backupMaster : Bool := true
  backupReplica : Bool := true
  deriving Inhabited

/-- Whether the role of the node matters under the settings `s`: only when exactly one of the two
roles is backed up. -/
def RedisSettings.roleMatters (s : RedisSettings) : Bool :=
  s.backupMaster != s.backupReplica

/-- When backups are made, and of what. -/
structure BackupSettings where
  interval : Duration := .ofSeconds 3600
  dumpName : String := "dump.rdb"
  initialDelay : Duration := .ofSeconds 300
  deriving Inhabited

/-- Which backups are kept. -/
structure RetentionSettings where
  keepLast : Int := 7
  keepDuration : Option Duration := none
  deriving Inhabited

/-- Whether every backup is deleted under the settings `s`: they have neither rule. -/
def RetentionSettings.deletesEverything (s : RetentionSettings) : Bool :=
  s.keepLast == 0 && (s.keepDuration.getD ⟨0⟩).isZero

/-- How the journal is shown. -/
structure LoggingSettings where
  format : String := "text"
  level : String := "info"
  file : Value := .null
  deriving Inhabited

/-- Where the counters are served. -/
structure MetricsSettings where
  enabled : Bool := false
  port : Int := 9090
  address : String := "0.0.0.0"
  deriving Inhabited

/-- All settings. -/
structure Config where
  redis : RedisSettings := {}
  backup : BackupSettings := {}
  storage : StorageTarget := {}
  retention : RetentionSettings := {}
  logging : LoggingSettings := {}
  metrics : MetricsSettings := {}
  deriving Inhabited

/-- The path of the dump under the configuration `c`. -/
def Config.dumpPath (c : Config) : FilePath :=
  c.redis.dataPath.join (.ofString c.backup.dumpName)

/-! ## Texts -/

/-- The settings of `c` that are kept as they are given, whatever kind of value they are. -/
def Config.givenValues (c : Config) : List Value :=
  [c.storage.region, c.storage.endpoint, c.storage.projectId, .int c.retention.keepLast,
   c.logging.file]

/-- Whether all settings of `c` can be shown. -/
def Config.isShowable (c : Config) : Bool := c.givenValues.all Value.isShowable

/-- The truth value `b` as messages show it. -/
def truthText (b : Bool) : String := (Value.bool b).quoted

/-- The settings `s` of the node as messages show them; the connection may hold a password and is
not shown. -/
def RedisSettings.described (s : RedisSettings) : String :=
  "RedisConfig(connection_string='[REDACTED]', data_path=" ++ Text.quoted s.dataPath.toString ++
    ", node_name=" ++ Text.quoted s.nodeName ++ ", backup_master=" ++ truthText s.backupMaster ++
    ", backup_replica=" ++ truthText s.backupReplica ++ ")"

/-- The backup settings `s` as messages show them. -/
def BackupSettings.described (s : BackupSettings) : String :=
  "BackupConfig(interval=" ++ s.interval.described ++ ", dump_filename=" ++
    Text.quoted s.dumpName ++ ", initial_delay=" ++ s.initialDelay.described ++ ")"

/-- The target `t` as messages show it. -/
def StorageTarget.described (t : StorageTarget) : String :=
  "StorageTarget(kind=" ++ Text.quoted t.kind.name ++ ", bucket=" ++ Text.quoted t.bucket ++
    ", prefix=" ++ Text.quoted t.folder ++ ", region=" ++ t.region.quoted ++ ", endpoint=" ++
    t.endpoint.quoted ++ ", project_id=" ++ t.projectId.quoted ++ ")"

/-- The retention settings `s` as messages show them. -/
def RetentionSettings.described (s : RetentionSettings) : String :=
  "RetentionConfig(keep_last=" ++ toString s.keepLast ++ ", keep_duration=" ++
    (match s.keepDuration with | some d => d.described | none => Value.null.quoted) ++ ")"

/-- The journal settings `s` as messages show them. -/
def LoggingSettings.described (s : LoggingSettings) : String :=
  "LoggingConfig(format=" ++ Text.quoted s.format ++ ", level=" ++ Text.quoted s.level ++
    ", file=" ++ s.file.quoted ++ ")"

/-- The settings `s` of the counters as messages show them. -/
def MetricsSettings.described (s : MetricsSettings) : String :=
  "MetricsConfig(enabled=" ++ truthText s.enabled ++ ", port=" ++ toString s.port ++
    ", listen_address=" ++ Text.quoted s.address ++ ")"

/-- All settings of `c` as messages show them. -/
def Config.described (c : Config) : String :=
  "Config(redis=" ++ c.redis.described ++ ", backup=" ++ c.backup.described ++ ", storage=" ++
    c.storage.described ++ ", retention=" ++ c.retention.described ++ ", logging=" ++
    c.logging.described ++ ", metrics=" ++ c.metrics.described ++ ")"

end DumpKeeper
