import DumpKeeper.Failure
import DumpKeeper.Journal
import DumpKeeper.Metrics
import DumpKeeper.Timer
import DumpKeeper.World

/-!
# Runs of the program

While the program runs it talks to the world, writes to its journal and counts what it does.  An act
does all of that, and may fail; what it did before it failed stays done.

* `Store`, `Executor` — a connected store, and what is needed to make backups.
* `Run` — the state of a run.
* `Act`, `attempt` — what can be done in a run, and an act whose failure is handed over.
* `say`, `count`, `observe`, `request` — one entry of the journal, one more in a counter, one more
  observation, one call.
-/

set_option autoImplicit false

namespace DumpKeeper

/-- A connected store. -/
structure Store where
  kind : BackendKind
  bucket : String
  deriving DecidableEq, Repr, Inhabited

/-- What is needed to make backups: the settings, and the store they go to. -/
structure Executor where
  config : Config
  store : Store
  deriving Inhabited

/-- The state of a run.  `level` is the least level of entries that go to the journal; `connected`
tells whether the client of the Redis node has been made; `timer` and `executor` are set while the
scheduler is; `counting` tells whether counters are kept; `gatherFault` is what showing them fails
with, if it does. -/
structure Run where
  world : World := {}
  journal : Journal := []
  level : Level := .debug
  metrics : Metrics := {}
  connected : Bool := false
  timer : Option Timer := none
  executor : Option Executor := none
  counting : Bool := false
  gatherFault : Option String := none
  deriving Inhabited

/-- What can be done in a run. -/
abbrev Act (α : Type) := ExceptT Failure (StateM Run) α

/-- The act `t` done, whether it fails or not. -/
def attempt {α : Type} (t : Act α) : Act (Except Failure α) :=
  ExceptT.mk do return .ok (← t.run)

/-- An act that fails with `f`. -/
def fail {α : Type} (f : Failure) : Act α := throw f

/-- An entry of the journal that says `message`, left out if its `level` is below that of the
journal. -/
def say (level : Level) (source : Source) (message : String) : Act Unit :=
  modify fun r =>
    if r.level.number ≤ level.number then
      { r with journal := r.journal ++ [⟨level, source, message⟩] }
    else r

/-- One more in the counter `c`. -/
def count (c : Counter) : Act Unit :=
  modify fun r => { r with metrics := r.metrics.tick c }

/-- The amount `a` observed in `d`. -/
def observe (d : Distribution) (a : Amount) : Act Unit :=
  modify fun r => { r with metrics := r.metrics.observe d a }

/-- The world changed by `f`. -/
def changeWorld (f : World → World) : Act Unit :=
  modify fun r => { r with world := f r.world }

/-- The call `c`, which may fail with a fault planned for it. -/
def request (c : Call) : Act Unit := do
  let (answer, world) := (← get).world.ask c
  modify fun r => { r with world := world }
  match answer with
  | .ok () => pure ()
  | .error f => fail (.service f)

/-- The point in time of the clock. -/
def currentTime : Act DateTime := do
  match DateTime.ofReading (← get).world.now with
  | .ok t => pure t
  | .error f => fail (.time f)

end DumpKeeper
