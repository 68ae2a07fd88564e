import DumpKeeper.Yaml.Merge
import DumpKeeper.Yaml.Reader
import DumpKeeper.Yaml.Scalar

/-!
# Building what the nodes of a document stand for

A scalar is converted as soon as it is met.  A collection is empty at first and waits for its turn;
what is in it is built when the collections met before it are done.  So an alias to a collection
that is not done yet is harmless, and of several faults in a document the same one always comes
first: those of one collection in the order of the text, and outer collections before inner ones.

* `Part` — what a node stands for, its own parts by number.
* `Builder` — the nodes, the parts so far and the collections that wait.
* `build` — the parts of a document.
-/

set_option autoImplicit false

namespace DumpKeeper.Yaml

/-- What a node stands for.  The parts of a collection are numbers of nodes. -/
inductive Part where
  | plain (v : Value)
  /-- The one number that is no number, however often it is written. -/
  | notANumber
  | list (items : List Nat)
  | pairs (entries : List (Nat × Nat))
  | set (members : List Nat)
  | map (entries : List (Nat × Nat))
  deriving Inhabited

namespace Part

/-- Whether a part can be a key: collections cannot. -/
def canBeKey : Part → Bool
  | plain _ | notANumber => true
  | _ => false

/-- Whether two parts are the same key. -/
def sameKey : Part → Part → Bool
  | plain v, plain w => v.sameKey w
  | notANumber, notANumber => true
  | _, _ => false

end Part

/-- The parts of a document by number, as far as they are known. -/
abbrev Parts := Array (Option Part)

/-- A part; a node that is not reached stands for nothing. -/
def Parts.part (ps : Parts) (n : Nat) : Part := (ps.getD n none).getD (.plain .null)

/-- The nodes of a document, the parts so far, and the collections in the order in which they were
met. -/
structure Builder where
  graph : Graph
  parts : Parts
  met : Array Nat := #[]

/-- A step of building. -/
abbrev Build := StateT Builder (Except Fault)

namespace Build

/-- The text of a scalar, or of the entry `=` of a mapping.  The first argument bounds how many
mappings are passed. -/
def scalarText (g : Graph) : Nat → Nat → Except Fault String
  | 0, _ => .error .tooDeep
  | fuel + 1, n =>
    match g.content n with
    | .scalar s => .ok s
    | .mapping es =>
      match es.find? fun e => g.tag e.1 = .default with
      | some (_, v) => scalarText g fuel v
      | none => .error .malformed
    | .sequence _ => .error .malformed

/-- What a scalar of the given kind stands for. -/
def scalarPart (g : Graph) (n : Nat) : Except Fault Part := do
  let tag := g.tag n
  let s ← scalarText g (g.nodes.size + 1) n
  match tag, g.content n with
  | .timestamp, .mapping _ => throw .momentOfMapping
  | .float, _ => if isNaNName s then return .notANumber
  | _, _ => pure ()
  return .plain (← scalarValue tag s)

/-- The part of a node. -/
def set (n : Nat) (p : Part) : Build Unit :=
  modify fun b => { b with parts := b.parts.setIfInBounds n (some p) }

/-- A collection that is empty for now. -/
def await (n : Nat) (p : Part) : Build Unit := do
  set n p
  modify fun b => { b with met := b.met.push n }

/-- A node is met: a scalar is converted, a collection has to wait. -/
def meet (n : Nat) : Build Unit := do
  let b ← get
  if (b.parts.getD n none).isNone then
    match b.graph.tag n with
    | .sequence => await n (.list [])
    | .orderedPairs => await n (.pairs [])
    | .set => await n (.set [])
    | .mapping => await n (.map [])
    | .unknown | .merge | .default => throw .malformed
    | _ => set n (← scalarPart b.graph n)

/-- An entry is met, whose key must be one; a key that was there before keeps its place. -/
def meetEntry (known : List (Nat × Nat)) (entry : Nat × Nat) : Build (List (Nat × Nat)) := do
  let (k, v) := entry
  meet k
  if !((← get).parts.part k).canBeKey then throw .malformed
  meet v
  let ps := (← get).parts
  let same (old : Nat × Nat) : Bool := old.1 == k || (ps.part old.1).sameKey (ps.part k)
  if known.any same then
    return known.map fun old => if same old then (old.1, v) else old
  else return known ++ [(k, v)]

/-- The entries of a mapping, with those it takes over. -/
def entriesOf (n : Nat) : Build (List (Nat × Nat)) := do
  let b ← get
  match b.graph.content n with
  | .mapping _ =>
    let g ← b.graph.resolved n
    MonadState.set { b with graph := g }
    (g.entries n).foldlM meetEntry []
  | _ => throw .malformed

/-- The items of a sequence. -/
def itemsOf (n : Nat) : Build (List Nat) := do
  match (← get).graph.content n with
  | .sequence items => return items
  | _ => throw .malformed

/-- The only entry of a mapping. -/
def singleEntry (n : Nat) : Build (Nat × Nat) := do
  match (← get).graph.content n with
  | .mapping [e] =>
    meet e.1
    meet e.2
    return e
  | _ => throw .malformed

/-- The contents of a collection that has waited. -/
def fill (n : Nat) : Build Unit := do
  match (← get).parts.part n with
  | .list _ =>
    let items ← itemsOf n
    items.forM meet
    set n (.list items)
  | .pairs _ => set n (.pairs (← (← itemsOf n).mapM singleEntry))
  | .set _ => set n (.set ((← entriesOf n).map (·.1)))
  | .map _ => set n (.map (← entriesOf n))
  | _ => pure ()

/-- The contents of the collections from the `i`th on, with those that are met meanwhile.  The first
argument bounds their number. -/
def fillFrom : Nat → Nat → Build Unit
  | 0, _ => pure ()
  | fuel + 1, i => do
    match (← get).met[i]? with
    | some n =>
      fill n
      fillFrom fuel (i + 1)
    | none => pure ()

end Build

/-- The parts of a document. -/
def build (d : Document) : Except Fault Parts := do
  let size := d.graph.nodes.size
  let act : Build Unit := do
    Build.meet d.root
    Build.fillFrom (size + 1) 0
  let ((), b) ← act.run { graph := d.graph, parts := Array.replicate size none }
  return b.parts

end DumpKeeper.Yaml
