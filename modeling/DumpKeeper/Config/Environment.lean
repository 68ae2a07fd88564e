import DumpKeeper.Config.Build

/-!
# Variables of the environment

Variables override the settings of the file, one by one.  A variable that is empty counts as not
set.  The target is the exception: it is made anew from the variables of its kind of store, and only
what they leave open is taken from a target of the same kind in the file.

* `Environment`, `variableNames`, `given?` — the variables, their names, and those that are set.
* `targetKind` — the kind of store that the variables ask for.
* `Config.override` — a configuration with the variables laid over it.
-/

set_option autoImplicit false

namespace DumpKeeper

open Conversion

/-- Variables with their texts. -/
abbrev Environment := List (String × String)

/-- The variables that are looked at. -/
def variableNames : List String :=
  ["REDIS_CONNECTION", "REDIS_DATA_PATH", "REDIS_NODE_NAME", "BACKUP_MASTER", "BACKUP_REPLICA",
   "BACKUP_INTERVAL", "DUMP_FILENAME", "INITIAL_DELAY", "STORAGE_TYPE", "STORAGE_URL",
   "S3_BUCKET", "S3_PREFIX", "AWS_REGION", "S3_ENDPOINT", "GCS_BUCKET", "GCS_PREFIX",
   "GCS_PROJECT_ID", "RETENTION_KEEP_LAST", "RETENTION_KEEP_DURATION", "LOG_FORMAT", "LOG_LEVEL",
   "LOG_FILE", "METRICS_ENABLED", "METRICS_PORT", "METRICS_LISTEN_ADDRESS"]

/-- The text of the variable `name`, if it is set and not empty. -/
def given? (env : Environment) (name : String) : Option String :=
  (env.lookup name).filter fun s => !s.isEmpty

/-- The setting `current`, or what `convert` makes of the text of the variable `name`, if that is
given. -/
def orGiven {α : Type} (env : Environment) (name : String) (current : α)
    (convert : String → Except ConfigFailure α) : Except ConfigFailure α :=
  match given? env name with
  | some s => convert s
  | none => .ok current

/-- The settings `s` of the node with the variables in `env` laid over them. -/
def RedisSettings.override (env : Environment) (s : RedisSettings) :
    Except ConfigFailure RedisSettings := do
  return { connection := ← orGiven env "REDIS_CONNECTION" s.connection .ok
           dataPath := ← orGiven env "REDIS_DATA_PATH" s.dataPath fun t => .ok (.ofString t)
           nodeName := ← orGiven env "REDIS_NODE_NAME" s.nodeName .ok
           backupMaster :=
             ← orGiven env "BACKUP_MASTER" s.backupMaster fun t => toTruth "BACKUP_MASTER" (.text t)
           backupReplica :=
             ← orGiven env "BACKUP_REPLICA" s.backupReplica fun t =>
               toTruth "BACKUP_REPLICA" (.text t) }

/-- The backup settings `s` with the variables in `env` laid over them. -/
def BackupSettings.override (env : Environment) (s : BackupSettings) :
    Except ConfigFailure BackupSettings := do
  return { interval :=
             ← orGiven env "BACKUP_INTERVAL" s.interval fun t =>
               toInterval "BACKUP_INTERVAL" (.text t)
           dumpName := ← orGiven env "DUMP_FILENAME" s.dumpName .ok
           initialDelay :=
             ← orGiven env "INITIAL_DELAY" s.initialDelay fun t =>
               toDuration "INITIAL_DELAY" (.text t) }

/-- The kind of store that the variables in `env` ask for: by name, else by the bucket that is
given, else the `current` one. -/
def targetKind (env : Environment) (current : BackendKind) : Except ConfigFailure BackendKind :=
  match given? env "STORAGE_TYPE" with
  | some text =>
    let name := lower text
    match BackendKind.named? (if name = "gs" then "gcs" else name) with
    | some kind => .ok kind
    | none => refuse (.unknownKindVariable text)
  | none =>
    if (given? env "GCS_BUCKET").isSome then .ok .gcs
    else if (given? env "S3_BUCKET").isSome then .ok .s3
    else .ok current

/-- The text of the variable `name`, or else `current`, which is what the target so far has. -/
def orCurrent (env : Environment) (name : String) (current : Value) : Value :=
  match given? env name with
  | some s => .text s
  | none => current

/-- The target `t` with the variables in `env` laid over it. -/
def StorageTarget.override (env : Environment) (t : StorageTarget) :
    Except ConfigFailure StorageTarget := do
  let kind ← targetKind env t.kind
  match given? env "STORAGE_URL" with
  | some s => StorageTarget.ofLocator (.text s)
  | none =>
    let current : Option StorageTarget := if t.kind = kind then some t else none
    let name (what : String) : String := kind.capitals ++ what
    let bucket := (given? env (name "_BUCKET")).getD ((current.map (·.bucket)).getD "")
    if bucket.isEmpty then refuse (.bucketVariable kind)
    else
      let folder :=
        (given? env (name "_PREFIX")).getD ((current.map (·.folder)).getD defaultFolder)
      let kept (get : StorageTarget → Value) : Value := (current.map get).getD .null
      match kind with
      | .gcs =>
        .ok { kind := kind, bucket := bucket, folder := folder,
              projectId := orCurrent env "GCS_PROJECT_ID" (kept (·.projectId)) }
      | .s3 =>
        .ok { kind := kind, bucket := bucket, folder := folder,
              region := orCurrent env "AWS_REGION" (kept (·.region)),
              endpoint := orCurrent env "S3_ENDPOINT" (kept (·.endpoint)) }

/-- The retention settings `s` with the variables in `env` laid over them. -/
def RetentionSettings.override (env : Environment) (s : RetentionSettings) :
    Except ConfigFailure RetentionSettings := do
  return { keepLast :=
             ← orGiven env "RETENTION_KEEP_LAST" s.keepLast fun t =>
               toCount "RETENTION_KEEP_LAST" (.text t)
           keepDuration :=
             ← orGiven env "RETENTION_KEEP_DURATION" s.keepDuration fun t =>
               (toDuration "RETENTION_KEEP_DURATION" (.text t)).map some }

/-- The journal settings `s` with the variables in `env` laid over them. -/
def LoggingSettings.override (env : Environment) (s : LoggingSettings) :
    Except ConfigFailure LoggingSettings := do
  let s : LoggingSettings :=
    { format := ← orGiven env "LOG_FORMAT" s.format fun t => .ok (lower t)
      level := ← orGiven env "LOG_LEVEL" s.level fun t => .ok (lower t)
      file := ← orGiven env "LOG_FILE" s.file fun t => .ok (.text t) }
  s.validate

/-- The settings `s` of the counters with the variables in `env` laid over them. -/
def MetricsSettings.override (env : Environment) (s : MetricsSettings) :
    Except ConfigFailure MetricsSettings := do
  return { enabled :=
             ← orGiven env "METRICS_ENABLED" s.enabled fun t => toTruth "METRICS_ENABLED" (.text t)
           port := ← orGiven env "METRICS_PORT" s.port fun t => toPort "METRICS_PORT" (.text t)
           address := ← orGiven env "METRICS_LISTEN_ADDRESS" s.address .ok }

/-- The configuration `c` with the variables in `env` laid over it, section by section. -/
def Config.override (env : Environment) (c : Config) : Except ConfigFailure Config := do
  let redis ← c.redis.override env
  let backup ← c.backup.override env
  let storage ← c.storage.override env
  let retention ← c.retention.override env
  let logging ← c.logging.override env
  let metrics ← c.metrics.override env
  Config.validate ⟨redis, backup, storage, retention, logging, metrics⟩

end DumpKeeper
