import DumpKeeper.Config.Locator
import DumpKeeper.Journal

/-!
# A configuration from its sections

The settings of a file stand in sections.  A section or a setting that is missing, or left empty, is
as it is by default.  The sections are looked at in a fixed order, so that of several faults always
the same one is reported.

* `settingsOf`, `setting` — the settings of a section that are given, and one of them.
* `Config.build` — the configuration of a mapping.
* `Config.validate`, `LoggingSettings.validate` — what must hold of any configuration.
-/

set_option autoImplicit false

namespace DumpKeeper

open Conversion

/-- The entries of a mapping. -/
abbrev Entries := List (Value × Value)

/-- The settings of the section `name` of `raw`, without those left empty.  A section that is empty
in any way has none. -/
def settingsOf (raw : Entries) (name : String) : Except ConfigFailure Entries :=
  match Value.lookup? name raw with
  | none => .ok []
  | some v =>
    if !v.truthy then .ok []
    else
      match v with
      | .map es => .ok (es.filter fun e => match e.2 with | .null => false | _ => true)
      | _ => refuse (.sectionNotAMapping name)

/-- The value of the setting `name` in `es`, or what it is by `default`. -/
def setting (es : Entries) (name : String) (default : Value) : Value :=
  (Value.lookup? name es).getD default

/-- The setting `name` in `es`, which is a text, whatever kind of value it is given as. -/
def textSetting (es : Entries) (name default : String) : Except ConfigFailure String :=
  shown (setting es name (.text default)) Value.asText

/-- The settings of the node from the section `es`. -/
def RedisSettings.build (es : Entries) : Except ConfigFailure RedisSettings := do
  let d : RedisSettings := {}
  return { connection := ← textSetting es "connection_string" d.connection
           dataPath := ← toPath (setting es "data_path" (.text d.dataPath.toString))
           nodeName := ← textSetting es "node_name" d.nodeName
           backupMaster := ← toTruth "redis.backup_master" (setting es "backup_master" (.bool true))
           backupReplica :=
             ← toTruth "redis.backup_replica" (setting es "backup_replica" (.bool true)) }

/-- The backup settings from the section `es`. -/
def BackupSettings.build (es : Entries) : Except ConfigFailure BackupSettings := do
  let d : BackupSettings := {}
  return { interval := ← toInterval "backup.interval" (setting es "interval" (.text "1h"))
           dumpName := ← textSetting es "dump_filename" d.dumpName
           initialDelay :=
             ← toDuration "backup.initial_delay" (setting es "initial_delay" (.text "300s")) }

/-- The other kind of store. -/
def BackendKind.other : BackendKind → BackendKind
  | .s3 => .gcs
  | .gcs => .s3

/-- The target from the section `es`.  Settings of the other kind of store are noted and left
out. -/
def StorageTarget.build (es : Entries) : Journaled ConfigFailure StorageTarget := do
  let name := lower (← textSetting es "type" "s3")
  let name := if name = "gs" then "gcs" else name
  match BackendKind.named? name with
  | none => throw (.refused (.unknownKind (Text.quoted name)))
  | some kind =>
    let unused := (knownParameters kind.other).filter fun n => (setting es n .null).truthy
    if !unused.isEmpty then
      note .warning .config
        ("Ignoring storage settings not used by " ++ kind.name ++ ": " ++ ", ".intercalate unused)
    return { kind := kind
             bucket := ← textSetting es "bucket" defaultFolder
             folder := ← textSetting es "prefix" defaultFolder
             region := if kind = .s3 then setting es "region" .null else .null
             endpoint := if kind = .s3 then setting es "endpoint" .null else .null
             projectId := if kind = .gcs then setting es "project_id" .null else .null }

/-- The retention settings from the section `es`.  A duration that is empty in any way is none. -/
def RetentionSettings.build (es : Entries) : Except ConfigFailure RetentionSettings := do
  let keepLast ← toCount "retention.keep_last" (setting es "keep_last" (.int 7))
  let keep := setting es "keep_duration" .null
  let keepDuration ←
    if keep.truthy then (toDuration "retention.keep_duration" keep).map some else pure none
  return ⟨keepLast, keepDuration⟩

/-- The formats of the journal. -/
def logFormats : List String := ["text", "json"]

/-- The levels that can be set, with the level that each stands for. -/
def logLevels : List (String × Level) :=
  [("debug", .debug), ("info", .info), ("warn", .warning), ("warning", .warning),
   ("error", .error), ("critical", .critical)]

/-- The journal settings `s`, whose format and level must be known. -/
def LoggingSettings.validate (s : LoggingSettings) : Except ConfigFailure LoggingSettings :=
  if !logFormats.contains s.format then refuse (.badLogFormat (Text.quoted s.format))
  else if (logLevels.lookup s.level).isNone then refuse (.badLogLevel (Text.quoted s.level))
  else .ok s

/-- The journal settings from the section `es`. -/
def LoggingSettings.build (es : Entries) : Except ConfigFailure LoggingSettings := do
  let s : LoggingSettings :=
    { format := lower (← textSetting es "format" "text")
      level := lower (← textSetting es "level" "info")
      file := setting es "file" .null }
  s.validate

/-- The settings of the counters from the section `es`. -/
def MetricsSettings.build (es : Entries) : Except ConfigFailure MetricsSettings := do
  let d : MetricsSettings := {}
  return { enabled := ← toTruth "metrics.enabled" (setting es "enabled" (.bool d.enabled))
           port := ← toPort "metrics.port" (setting es "port" (.int d.port))
           address := ← textSetting es "listen_address" d.address }

/-- The configuration `c`, whose names must not be empty. -/
def Config.validate (c : Config) : Except ConfigFailure Config :=
  if c.redis.nodeName.isEmpty then refuse .emptyNodeName
  else if c.backup.dumpName.isEmpty then refuse .emptyDumpName
  else if c.storage.bucket.isEmpty then refuse .emptyBucket
  else .ok c

/-- The configuration of the mapping `raw`. -/
def Config.build (raw : Entries) : Journaled ConfigFailure Config := do
  let redis ← settingsOf raw "redis"
  let backup ← settingsOf raw "backup"
  let storage ← settingsOf raw "storage"
  let retention ← settingsOf raw "retention"
  let logging ← settingsOf raw "logging"
  let metrics ← settingsOf raw "metrics"
  let redis ← RedisSettings.build redis
  let backupSettings ← BackupSettings.build backup
  let locator := setting backup "storage_url" .null
  let target ←
    if locator.truthy then liftM (StorageTarget.ofLocator locator)
    else StorageTarget.build storage
  let retention ← RetentionSettings.build retention
  let logging ← LoggingSettings.build logging
  let metrics ← MetricsSettings.build metrics
  liftM (Config.validate ⟨redis, backupSettings, target, retention, logging, metrics⟩)

end DumpKeeper
