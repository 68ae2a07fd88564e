import DumpKeeper.Yaml.Node

/-!
# Entries taken over from other mappings

With the key `<<` a mapping takes over the entries of another mapping, or of several in a sequence.
It is changed in place: the key is gone afterwards, and what was taken over stands before the
mapping's own entries.  A mapping may take over from itself; since the key is removed before its
value is looked at, it then gives what is left of it.

* `Graph.resolve` — a mapping without such keys.
* `Graph.resolved` — the same, bounded by the number of such keys.
-/

set_option autoImplicit false

namespace DumpKeeper.Yaml

namespace Graph

/-- The value of the first key `<<`, and the other entries. -/
def splitMerge? (g : Graph) : List (Nat × Nat) → Option (Nat × List (Nat × Nat))
  | [] => none
  | (k, v) :: rest =>
    if g.tag k = .merge then some (v, rest)
    else (g.splitMerge? rest).map fun (source, others) => (source, (k, v) :: others)

/-- A mapping with no key `<<` left, after what it has taken over.  A key `=` is a text from now
on. -/
def settle (n : Nat) (taken : List (Nat × Nat)) (g : Graph) : Graph :=
  let own := g.entries n
  let g := own.foldl (fun g (k, _) => if g.tag k = .default then g.mark k .text else g) g
  if taken.isEmpty then g else g.fill n (.mapping (taken ++ own))

/-- A mapping without the key `<<`, `taken` being what it has taken over so far.  Of a sequence the
first mapping goes last, so that it overrides the others.  Every call removes a key first, and the
first argument bounds how many there are. -/
def resolve : Nat → Nat → List (Nat × Nat) → Graph → Except Fault Graph
  | 0, _, _, _ => .error .tooDeep
  | fuel + 1, n, taken, g =>
    match g.splitMerge? (g.entries n) with
    | none => .ok (g.settle n taken)
    | some (source, others) => do
      let g := g.fill n (.mapping others)
      let giving (m : Nat) (g : Graph) : Except Fault (List (Nat × Nat) × Graph) :=
        match g.content m with
        | .mapping _ => do
          let g ← resolve fuel m [] g
          return (g.entries m, g)
        | _ => throw .malformed
      let (more, g) ← match g.content source with
        | .sequence items =>
          items.foldlM (fun (later, g) m => do
            let (es, g) ← giving m g
            return (es ++ later, g)) ([], g)
        | _ => giving source g
      resolve fuel n (taken ++ more) g

/-- The number of keys `<<`. -/
def merges (g : Graph) : Nat :=
  g.nodes.foldl (fun count node =>
    match node.content with
    | .mapping es => count + es.countP fun e => g.tag e.1 = .merge
    | _ => count) 0

/-- A mapping without the key `<<`. -/
def resolved (n : Nat) (g : Graph) : Except Fault Graph :=
  if (g.splitMerge? (g.entries n)).isNone then .ok (g.settle n [])
  else resolve (g.merges + 1) n [] g

end Graph

end DumpKeeper.Yaml
