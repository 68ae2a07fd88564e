/-!
# The journal

What the program has to say about its work goes to a journal.  Each entry has a level and the part
of the program it comes from; where the entries go and which of them are shown is decided elsewhere.

* `Level`, `Source`, `Entry` — the levels, the parts of the program, and an entry.
* `Journaled` — a computation that may fail and writes to the journal either way.
* `note` — one entry.
-/

set_option autoImplicit false

namespace DumpKeeper

/-- How much an entry matters. -/
inductive Level where
  | debug
  | info
  | warning
  | error
  | critical
  deriving DecidableEq, Repr, Inhabited

/-- The number of a level; a larger number matters more. -/
def Level.number : Level → Nat
  | .debug => 10
  | .info => 20
  | .warning => 30
  | .error => 40
  | .critical => 50

/-- The name of a level. -/
def Level.name : Level → String
  | .debug => "DEBUG"
  | .info => "INFO"
  | .warning => "WARNING"
  | .error => "ERROR"
  | .critical => "CRITICAL"

/-- The name of the level of `number`, levels in between included. -/
def levelName (number : Int) : String :=
  match [Level.debug, .info, .warning, .error, .critical].find? fun l => l.number == number with
  | some l => l.name
  | none => if number = 0 then "NOTSET" else "Level " ++ toString number

/-- The parts of the program that write to the journal. -/
inductive Source where
  | application
  | config
  | commandLine
  | metrics
  | endpoint
  | scheduler
  | cycle
  | retention
  | role
  | storage
  deriving DecidableEq, Repr, Inhabited

/-- The name under which all parts of the program are found. -/
def applicationName : String := "redis_vault"

/-- The name of a part, as the journal shows it. -/
def Source.name : Source → String
  | .application => applicationName
  | .config => applicationName ++ ".config"
  | .commandLine => applicationName ++ ".cli"
  | .metrics => applicationName ++ ".metrics"
  | .endpoint => applicationName ++ ".routes.metrics_routes"
  | .scheduler => applicationName ++ ".scheduler"
  | .cycle => applicationName ++ ".backup.executor"
  | .retention => applicationName ++ ".backup.retention"
  | .role => applicationName ++ ".backup.role"
  | .storage => applicationName ++ ".backup.storage"

/-- One entry of the journal. -/
structure Entry where
  level : Level
  source : Source
  message : String
  deriving DecidableEq, Repr, Inhabited

/-- A journal, oldest entry first. -/
abbrev Journal := List Entry

/-- A computation that may fail with `ε`; what it has written stays written. -/
abbrev Journaled (ε : Type) := ExceptT ε (StateM Journal)

/-- One more entry, which says `message`. -/
def note {ε : Type} (level : Level) (source : Source) (message : String) : Journaled ε Unit :=
  modify (· ++ [⟨level, source, message⟩])

end DumpKeeper
