import DumpKeeper.Config.Settings
import DumpKeeper.Duration.Parse
import DumpKeeper.FileTree
import DumpKeeper.Yaml.Token

/-!
# Refused configurations

A configuration is refused with a reason that names the setting and shows the value.  A few faults
are not told that way: they concern the value itself, before any setting is looked at.

* `ConfigError`, `ConfigError.message` — the reasons, and their wording.
* `Defect` — the faults without a wording.
* `ConfigFailure` — one or the other.
-/

set_option autoImplicit false

namespace DumpKeeper

/-- Why a file cannot be read. -/
inductive FileTrouble where
  /-- The system does not give it. -/
  | system (f : FileFault) (path : String)
  /-- Its text is not in the format of configurations. -/
  | format
  deriving DecidableEq, Repr

/-- What the system says, or a mark in place of a description of the format's rules. -/
def FileTrouble.message : FileTrouble → String
  | .system f path => f.message path
  | .format => "<yaml>"

/-- Why a configuration is refused.  `name` is a setting, `shown` its value as messages show it. -/
inductive ConfigError where
  | unreadable (path : String) (trouble : FileTrouble)
  | notAMapping (path : String)
  | sectionNotAMapping (name : String)
  | badTruth (name shown : String)
  | badCount (name shown : String)
  | negative (name : String)
  | badPort (name : String)
  | badDuration (name : String) (e : Duration.Error)
  | shortInterval (name : String)
  | unknownKind (shown : String)
  | unknownKindVariable (text : String)
  | bucketVariable (kind : BackendKind)
  | unknownScheme (shown : String)
  | noBucket (shown : String)
  | unknownParameters (kind : BackendKind) (names : List String)
  | emptyNodeName
  | emptyDumpName
  | emptyBucket
  | badLogFormat (shown : String)
  | badLogLevel (shown : String)
  | logFile (name : String) (f : FileFault) (shown : String)
  | idleInterval (shown : String)
  deriving DecidableEq, Repr

/-- A kind of store in capitals. -/
def BackendKind.capitals : BackendKind → String
  | .s3 => "S3"
  | .gcs => "GCS"

/-- The wording of a reason. -/
def ConfigError.message : ConfigError → String
  | .unreadable path trouble =>
    "Failed to read configuration file " ++ path ++ ": " ++ trouble.message
  | .notAMapping path => "Configuration file " ++ path ++ " must contain a mapping"
  | .sectionNotAMapping name => "Configuration section '" ++ name ++ "' must be a mapping"
  | .badTruth name shown => "Invalid boolean for " ++ name ++ ": " ++ shown
  | .badCount name shown => "Invalid integer for " ++ name ++ ": " ++ shown
  | .negative name => name ++ " must not be negative"
  | .badPort name => name ++ " must be between 1 and 65535"
  | .badDuration name e => "Invalid duration for " ++ name ++ ": " ++ e.message
  | .shortInterval name => name ++ " must be at least one second"
  | .unknownKind shown =>
    "Unsupported storage type: " ++ shown ++ " (expected one of: s3, gcs)"
  | .unknownKindVariable text => "Unsupported STORAGE_TYPE: " ++ text
  | .bucketVariable kind =>
    kind.capitals ++ "_BUCKET required for " ++ kind.capitals ++ " storage"
  | .unknownScheme shown =>
    "Unsupported storage URL scheme in " ++ shown ++ ": expected s3:// or gs://"
  | .noBucket shown => "Storage URL " ++ shown ++ " has no bucket"
  | .unknownParameters kind names =>
    "Unknown " ++ kind.capitals ++ " storage URL parameters: " ++ ", ".intercalate names
  | .emptyNodeName => "redis.node_name must not be empty"
  | .emptyDumpName => "backup.dump_filename must not be empty"
  | .emptyBucket => "storage bucket must not be empty"
  | .badLogFormat shown => "Invalid log format " ++ shown ++ " (expected text or json)"
  | .badLogLevel shown => "Invalid log level " ++ shown
  | .logFile name f shown => "Cannot open log file " ++ name ++ ": " ++ f.words ++ ": " ++ shown
  | .idleInterval shown => "Backup interval must be positive, got " ++ shown

/-- A fault that no reason is given for. -/
inductive Defect where
  /-- A number or a duration is out of range. -/
  | outOfRange
  /-- A number has too many digits. -/
  | tooManyDigits
  /-- A value that is no text is given as a path. -/
  | notAPath
  /-- The host of a locator, or its port, cannot be one. -/
  | badHost
  /-- A label of a host is empty or too long. -/
  | badLabel
  /-- A name holds the character that ends names. -/
  | endedName
  /-- A name of a file holds half a character. -/
  | unwritableName
  /-- A path that the system refuses to look at. -/
  | unreachable
  /-- A file has a value that cannot be built. -/
  | badValue (f : Yaml.Fault)
  deriving DecidableEq, Repr

/-- Why there is no configuration. -/
inductive ConfigFailure where
  | refused (e : ConfigError)
  | broken (d : Defect)
  deriving DecidableEq, Repr

end DumpKeeper
