import DumpKeeper.Value.Slots
import DumpKeeper.Yaml.Build

/-!
# Documents as values

A collection may be a part of itself.  Whoever looks at a part of a document goes on into the
collections inside it, and stops at a collection that is being looked at already.  Where that is
depends on the part that is looked at; a section of a configuration and each setting in it are
looked at on their own.

A part that stands in many places is looked at once, unless it leads back to a collection around it.

* `Unfolding.value` — a part as it is looked at inside other collections.
* `Parts.value` — a document of which the parts down to some level can be looked at on their own.
-/

set_option autoImplicit false

namespace DumpKeeper.Yaml

/-- The values found so far, by number. -/
abbrev Unfolding := StateM (Array (Option Value))

namespace Unfolding

/-- The value of a part and whether it is the same everywhere. -/
abbrev Found := Value × Bool

/-- A value is remembered if it is the same everywhere. -/
def keep (n : Nat) (found : Found) : Unfolding Found := do
  if found.2 then modify fun known => known.setIfInBounds n (some found.1)
  return found

/-- The value of a part inside the collections `opened`.  The first argument bounds the collections
that can be opened. -/
def value (ps : Parts) : Nat → List Nat → Nat → Unfolding Found
  | 0, _, _ => pure (.null, false)
  | fuel + 1, opened, n => do
    if let some v := (← get).getD n none then return (v, true)
    let inside := value ps fuel (n :: opened)
    let entry (e : Nat × Nat) : Unfolding ((Value × Value) × Bool) := do
      let (k, here) ← inside e.1
      let (v, there) ← inside e.2
      return ((k, v), here && there)
    match ps.part n with
    | .plain v => return (v, true)
    | .notANumber => return (.float notANumber, true)
    | .list items =>
      if opened.contains n then return (.enclosing false, false)
      let vs ← items.mapM inside
      keep n (.list (vs.map (·.1)), vs.all (·.2))
    | .pairs es =>
      if opened.contains n then return (.enclosing false, false)
      let vs ← es.mapM entry
      keep n (.list (vs.map fun e => .pair e.1.1 e.1.2), vs.all (·.2))
    | .set members =>
      let vs ← members.mapM inside
      keep n (.set (Value.inSlotOrder (vs.map (·.1))), true)
    | .map es =>
      if opened.contains n then return (.enclosing true, false)
      let vs ← es.mapM entry
      keep n (.map (vs.map (·.1)), vs.all (·.2))

/-- The value of a part of which the values of mappings, `levels` deep, are looked at on their
own. -/
def layered (ps : Parts) : Nat → Nat → Unfolding Value
  | 0, n => return (← value ps (ps.size + 1) [] n).1
  | levels + 1, n =>
    match ps.part n with
    | .map es =>
      return .map (← es.mapM fun (k, v) => return (← layered ps 0 k, ← layered ps levels v))
    | _ => layered ps 0 n

end Unfolding

/-- The value of a document of which the values of mappings, `levels` deep, are looked at on their
own. -/
def Parts.value (ps : Parts) (levels root : Nat) : Value :=
  ((Unfolding.layered ps levels root).run (Array.replicate ps.size none)).1

end DumpKeeper.Yaml
