import DumpKeeper.Retention.Partition
import DumpKeeper.Run

/-!
# Faults that backends count on

Each backend counts on certain faults of its store and reports them as errors of its own, together
with what it was about to do.

* `guarded` — an act whose faults are reported by a backend.
* `recordOf` — the record of a stored object, if the store reports its time.
-/

set_option autoImplicit false

namespace DumpKeeper

/-- The act `t`; the faults that `backend` counts on are reported as errors of it. -/
def guarded {α : Type} (backend : BackendKind) (action : StorageAction) (t : Act α) : Act α := do
  match ← attempt t with
  | .ok a => pure a
  | .error (.service f) =>
    if f.isOf backend then fail (.storage ⟨backend, action, f⟩) else fail (.service f)
  | .error f => fail f

/-- The record of the object `o`.  An object without a time has none; one without a size counts as
empty. -/
def recordOf (o : StoredObject) : Except Failure (Option Record) :=
  match o.time with
  | none => .ok none
  | some t =>
    match t.toUtcSeconds? with
    | some t => .ok (some ⟨o.key, t, o.size.getD 0⟩)
    | none => .error (.time .beyondDates)

/-- The records of objects, added to those so far. -/
def recordsOf (os : Objects) : Except Failure (List Record) :=
  (os.mapM recordOf).map (·.filterMap id)

end DumpKeeper
