import DumpKeeper.Clock
import DumpKeeper.Config.Build
import DumpKeeper.LogFiles
import DumpKeeper.Text.Json

/-!
# Showing the journal

Entries of the journal, and those of the libraries that the program uses, are written to the console
and, if one is set, to a file.  The program itself is shown from the level that is set; everything
else from warnings on.  What belongs to the program is told by the names of the loggers, each of
which stands below those whose names are cut off it at a point.

* `LogRecord` — an entry with the place in the program that it comes from.
* `Logging` — the levels, and the sinks that records are written to.
* `Loggers` — the loggers that are known, and what was decided for them.
* `Logging.ask`, `Logging.shown` — whether a record is shown, and which of many are.
* `LoggingSettings.configure` — the levels and sinks of some settings.
* `LogRecord.text` — a record as a sink writes it.
* `LogSink.received`, `Logging.received` — the records that a sink receives of those that are shown,
  and of any.
* `Logging.written` — all that is written of some records where nothing is lost.
-/

set_option autoImplicit false

namespace DumpKeeper

/-- An entry with the place that it comes from and the time of the clock, in seconds since 1970 and
thousandths. -/
structure LogRecord where
  logger : String
  level : Int
  path : String
  line : Int
  function : String
  message : String
  seconds : Int
  millis : Int
  deriving DecidableEq, Repr, Inhabited

/-- The three ways to write a record: for the console, for a file, and as a mapping. -/
inductive LogStyle where
  | console
  | file
  | mapping
  deriving DecidableEq, Repr, Inhabited

/-- Where records are written to: the console, or a file given by its parts. -/
structure LogSink where
  place : Option (List String)
  style : LogStyle
  deriving DecidableEq, Repr, Inhabited

/-- The levels from which records are shown, for the program itself if it has one of its own, and
for all else; and the sinks. -/
structure Logging where
  base : Level := .warning
  own : Option Level := none
  sinks : List LogSink := []
  deriving DecidableEq, Repr, Inhabited

/-! ## Loggers -/

/-- The loggers that are known, by their names, and what was decided for a logger and a level. -/
structure Loggers where
  known : List String := [applicationName]
  answers : List ((String × Int) × Bool) := []
  deriving DecidableEq, Repr, Inhabited

/-- Whether the way up from a logger leads to that of the program, with `known` the loggers that
there are.  The name is read from its end.  Where it is cut off at a point, the way goes on from the
logger of that name, if there is one; else the name is cut off further on, but not at a point right
before this one. -/
def leadsUp (known : List String) : List Char → Bool
  | '.' :: c :: rest =>
    let above := String.ofList (c :: rest).reverse
    above == applicationName ||
      if known.contains above then leadsUp known (c :: rest) else leadsUp known rest
  | _ :: rest => leadsUp known rest
  | [] => false

/-- Whether `logger` is that of the program or stands below it. -/
def isOwnLogger (known : List String) (logger : String) : Bool :=
  logger == applicationName || leadsUp known logger.toList.reverse

/-- The level from which records of `logger` are shown. -/
def Logging.levelOf (l : Logging) (known : List String) (logger : String) : Level :=
  if isOwnLogger known logger then l.own.getD l.base else l.base

/-- Whether records of `logger` at `level` are shown, and the loggers after that.  A logger is known
once it is asked, and what it has answered is not looked at again. -/
def Logging.ask (l : Logging) (logger : String) (level : Int) (g : Loggers) : Bool × Loggers :=
  match g.answers.lookup (logger, level) with
  | some answer => (answer, g)
  | none =>
    let answer : Bool := (l.levelOf g.known logger).number ≤ level
    (answer, ⟨logger :: g.known, ((logger, level), answer) :: g.answers⟩)

/-- The records that are shown under the levels of `l`, of some that come one after another. -/
def Logging.shown (l : Logging) : Loggers → List LogRecord → List LogRecord
  | _, [] => []
  | g, r :: rest =>
    let (answer, g) := l.ask r.logger r.level g
    if answer then r :: l.shown g rest else l.shown g rest

/-! ## Setting up -/

/-- The level of the settings `s`; a name that stands for none stands for information. -/
def LoggingSettings.levelOf (s : LoggingSettings) : Level :=
  (logLevels.lookup (Conversion.lower s.level)).getD .info

/-- Whether records are written as mappings under the settings `s`. -/
def LoggingSettings.asMapping (s : LoggingSettings) : Bool := s.format == "json"

/-- Whether `c` is a half of a character that does not stand for a byte; names of files have
none. -/
def isStrayHalf (c : Char) : Bool :=
  let code := Text.codeOf c
  Text.isHalf code && !(0xdc80 ≤ code && code < 0xdd00)

/-- The path that `name` stands for, if it can be the name of a file. -/
def pathNamed (name : String) : Except ConfigFailure FilePath :=
  if name.toList.any isStrayHalf then .error (.broken .unwritableName)
  else if name.toList.contains FileTree.endOfName then .error (.broken .endedName)
  else .ok (.ofString name)

/-- The path of the file of the settings `s`, if they name one; only a text or bytes can do so. -/
def LoggingSettings.filePath (s : LoggingSettings) : Except ConfigFailure (Option FilePath) :=
  if !s.file.truthy then .ok none
  else
    match s.file with
    | .text name => (pathNamed name).map some
    | .bytes bs => (pathNamed (String.ofList (Text.decodeLossy bs))).map some
    | _ => .error (.broken .notAPath)

/-- The path `path` as the system shows it, which is in bytes if that of the settings `s` is. -/
def LoggingSettings.shownPath (s : LoggingSettings) (path : String) : String :=
  match s.file with
  | .bytes _ => Text.quotedBytes (Text.encode path)
  | _ => Text.quoted path

/-- The levels and sinks of the settings `s`, and the `files` with that of the settings opened.
Nothing is set up if the file cannot be opened. -/
def LoggingSettings.configure (s : LoggingSettings) (files : FileTree) :
    Except ConfigFailure (Logging × FileTree) := do
  let style (plain : LogStyle) : LogStyle := if s.asMapping then .mapping else plain
  let console : LogSink := ⟨none, style .console⟩
  match ← s.filePath with
  | none => return (⟨.warning, some s.levelOf, [console]⟩, files)
  | some p =>
    let place := FilePath.absolute files.cwd p
    match files.openAt place with
    | .error f => throw (.refused (.logFile s.file.asText f (s.shownPath (files.fullText p))))
    | .ok opened =>
      return (⟨.warning, some s.levelOf, [console, ⟨some place, style .file⟩]⟩, opened)

/-- The first entry of the journal after it is set up at `level`. -/
def configuredEntry (level : Level) : Entry :=
  ⟨.info, .application, "Logging configured (level: " ++ level.name ++ ")"⟩

/-! ## Texts -/

/-- The date of a count of `seconds` since 1970; the count of years goes on below one. -/
def dateOfUnix (seconds : Int) : Int × Nat × Nat :=
  let day := DateTime.unixDay + seconds / 86400
  let d := Date.ofDay (day % cycleDays).toNat
  (d.year + 400 * (day / cycleDays), d.month, d.day)

/-- The time of the record `r`. -/
def LogRecord.timeText (r : LogRecord) : String :=
  let (year, month, day) := dateOfUnix r.seconds
  let s := (r.seconds % 86400).toNat
  toString year ++ "-" ++ Duration.padded 2 month ++ "-" ++ Duration.padded 2 day ++ " " ++
    Duration.padded 2 (s / 3600) ++ ":" ++ Duration.padded 2 (s % 3600 / 60) ++ ":" ++
    Duration.padded 2 (s % 60) ++ "," ++ Duration.padded 3 r.millis.toNat

/-- The name of the file at `path` without its folders. -/
def baseName (path : String) : List Char :=
  (path.toList.reverse.takeWhile (· != '/')).reverse

/-- A `name` without its last extension; points at its beginning begin no extension. -/
def dropExtension (name : List Char) : List Char :=
  let points := name.takeWhile (· == '.')
  let rest := name.dropWhile (· == '.')
  if rest.contains '.' then points ++ ((rest.reverse.dropWhile (· != '.')).drop 1).reverse
  else name

/-- The module that the record `r` comes from. -/
def LogRecord.module (r : LogRecord) : String := String.ofList (dropExtension (baseName r.path))

/-- The record `r` as a sink writes it, without the end of the line. -/
def LogRecord.text (r : LogRecord) : LogStyle → String
  | .console =>
    "[" ++ r.timeText ++ "] " ++ levelName r.level ++ " in " ++ r.module ++ ": " ++ r.message
  | .file =>
    "[" ++ r.timeText ++ "] " ++ levelName r.level ++ " [" ++ r.logger ++ "." ++ r.function ++
      ":" ++ toString r.line ++ "] " ++ r.message
  | .mapping =>
    Text.jsonObject ", " ": "
      [("asctime", Text.jsonText r.timeText), ("levelname", Text.jsonText (levelName r.level)),
       ("name", Text.jsonText r.logger), ("message", Text.jsonText r.message),
       ("module", Text.jsonText r.module), ("funcName", Text.jsonText r.function),
       ("lineno", toString r.line)]

/-- Whether `text` can be written in this `style`.  A file takes no text with a half of a character
in it; the console shows such a half in its own way. -/
def LogStyle.takes (style : LogStyle) (text : String) : Bool :=
  style == .console || !text.toList.any fun c => Text.isHalf (Text.codeOf c)

/-- Whether the record `r` can be written in this `style`. -/
def LogStyle.takesRecord (style : LogStyle) (r : LogRecord) : Bool := style.takes (r.text style)

/-- The record `r` as a line in this `style`. -/
def LogStyle.line (style : LogStyle) (r : LogRecord) : String := r.text style ++ "\n"

/-- The records that a sink receives, of those that are shown.  A file, which is one of `files`, may
have to be moved in between, and `moves` tells whether that succeeds. -/
def LogSink.received (k : LogSink) (files : FileTree) (moves : List Bool)
    (shown : List LogRecord) : List LogRecord :=
  match k.place with
  | none => shown.filter k.style.takesRecord
  | some place => ((files.logFiles place moves).receive k.style.line k.style.takesRecord shown).1

/-- The records that the sink `k` receives, of some that come one after another. -/
def Logging.received (l : Logging) (k : LogSink) (files : FileTree) (moves : List Bool)
    (g : Loggers) (records : List LogRecord) : List LogRecord :=
  k.received files moves (l.shown g records)

/-- All that is written of the `records` in this `style`, if nothing was asked before and nothing
has to be moved. -/
def Logging.written (l : Logging) (style : LogStyle) (records : List LogRecord) : String :=
  String.join (((l.shown {} records).filter style.takesRecord).map style.line)

end DumpKeeper
