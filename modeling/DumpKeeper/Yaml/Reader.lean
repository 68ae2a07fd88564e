import DumpKeeper.Yaml.Node

/-!
# Reading the nodes of a YAML document

Every node may carry a tag and an anchor, and an alias stands for the node with its anchor.  An
anchor is known as soon as its node begins, so that a collection can be a part of itself.  The
tokens may end where the text cannot be read on; that is a fault only when such a token is looked
at.

* `Reader` — the tokens that are left, the nodes and the anchors so far.
* `Reader.node` — the node at the beginning of the tokens.
* `Document`, `document?` — the one document of a token list, or `none` when there is none at all.

The functions that read a collection call one another, and each call passes a token or goes one
level deeper on the same token; a bound on the number of calls, computed from the number of tokens,
makes them total.
-/

set_option autoImplicit false

namespace DumpKeeper.Yaml

/-- What is left of the tokens, the tag handles in force, and the nodes and anchors so far. -/
structure Reader where
  rest : List Token
  handles : List (String × String)
  anchors : List (String × Nat) := []
  graph : Graph := {}
  /-- The number of collections around the place. -/
  depth : Nat := 0

/-- How many collections can stand inside one another.  This is one bound for all kinds of
collections; of the documents that are up to three levels deeper, some could still be read. -/
def deepest : Nat := 487

namespace Reader

/-- The next token. -/
def peek (r : Reader) : Token := r.rest.headD .streamEnd

/-- The reader behind the next token. -/
def next (r : Reader) : Reader := { r with rest := r.rest.drop 1 }

/-- What is wrong with the next token, when it is none of those that may stand there. -/
def refusal (r : Reader) : Fault :=
  match r.peek with
  | .unreadable f => f
  | _ => .malformed

/-- The next token must at least be one that can be read. -/
def readable (r : Reader) : Except Fault Unit :=
  match r.peek with
  | .unreadable f => .error f
  | _ => .ok ()

/-- The handles that need no directive. -/
def defaultHandles : List (String × String) := [("!", "!"), ("!!", standardAddress)]

/-- The anchor and the tag before a node, in either order. -/
def properties (r : Reader) :
    Except Fault (Option String × Option (Option String × String) × Reader) :=
  match r.peek with
  | .anchor name =>
    let r := r.next
    match r.peek with
    | .tag h s => .ok (some name, some (h, s), r.next)
    | .unreadable f => .error f
    | _ => .ok (some name, none, r)
  | .tag h s =>
    let r := r.next
    match r.peek with
    | .anchor name => .ok (some name, some (h, s), r.next)
    | .unreadable f => .error f
    | _ => .ok (none, some (h, s), r)
  | _ => .ok (none, none, r)

/-- The address of a tag, its handle replaced by what it stands for. -/
def expand (r : Reader) : Option (Option String × String) → Except Fault (Option String)
  | none => .ok none
  | some (none, suffix) => .ok (some suffix)
  | some (some handle, suffix) =>
    match r.handles.lookup handle with
    | some expansion => .ok (some (expansion ++ suffix))
    | none => .error .malformed

/-- A name given to a node.  Every name is given once. -/
def bind (name : Option String) (number : Nat) (r : Reader) : Except Fault Reader :=
  match name with
  | none => .ok r
  | some name =>
    if (r.anchors.lookup name).isSome then .error .malformed
    else .ok { r with anchors := (name, number) :: r.anchors }

/-- A new node with its name. -/
def add (name : Option String) (new : Node) (r : Reader) : Except Fault (Nat × Reader) := do
  let (number, graph) := r.graph.add new
  let r ← r.bind name number
  return (number, { r with graph := graph })

/-- A scalar with its name. -/
def scalar (name : Option String) (tag : Tag) (text : String) (r : Reader) :
    Except Fault (Nat × Reader) :=
  r.add name ⟨tag, .scalar text⟩

/-- A node that is not written: nothing. -/
def absent (r : Reader) : Except Fault (Nat × Reader) := r.scalar none .null ""

/-- A collection with its name; its contents are read after it is known. -/
def collection (name : Option String) (tag : Tag) (read : Reader → Except Fault (Content × Reader))
    (r : Reader) : Except Fault (Nat × Reader) := do
  let (number, r) ← r.add name ⟨tag, .scalar ""⟩
  if deepest ≤ r.depth then throw .tooDeep
  let (content, r) ← read { r with depth := r.depth + 1 }
  return (number, { r with depth := r.depth - 1, graph := r.graph.fill number content })

/-- The kind of a scalar.  The tag `!` makes a scalar as if it were plain. -/
def scalarTag (address : Option String) (plain : Bool) (text : String) : Tag :=
  match address with
  | none => if plain then Tag.ofPlain text else .text
  | some "!" => Tag.ofPlain text
  | some a => Tag.ofAddress a

/-- The kind of a collection. -/
def collectionTag (address : Option String) (kind : Tag) : Tag :=
  match address with
  | none => kind
  | some "!" => kind
  | some a => Tag.ofAddress a

/-- A node of which only the properties are written. -/
def unwritten (name address : Option String) (r : Reader) : Except Fault (Nat × Reader) := do
  r.readable
  if name.isSome || address.isSome then r.scalar name (scalarTag address true "") ""
  else throw .malformed

/-- Where a node is read: which collections may begin there. -/
inductive Place where
  | flow
  | block
  | blockOrIndentless
  deriving DecidableEq, Repr

mutual

/-- The node at the beginning of the tokens. -/
def node : Nat → Place → Reader → Except Fault (Nat × Reader)
  | 0, _, _ => .error .malformed
  | fuel + 1, place, r =>
    match r.peek with
    | .alias name =>
      match r.anchors.lookup name with
      | some number => .ok (number, r.next)
      | none => .error .malformed
    | _ => do
      let (name, tag, r) ← r.properties
      let address ← r.expand tag
      let sequence (read : Reader → Except Fault (List Nat × Reader)) :=
        collection name (collectionTag address .sequence) fun r =>
          (read r).map fun (items, r) => (.sequence items, r)
      let mapping (read : Reader → Except Fault (List (Nat × Nat) × Reader)) :=
        collection name (collectionTag address .mapping) fun r =>
          (read r).map fun (entries, r) => (.mapping entries, r)
      match r.peek with
      | .scalar text plain => r.next.scalar name (scalarTag address plain text) text
      | .flowSequenceStart => sequence (flowItems fuel true) r.next
      | .flowMappingStart => mapping (flowEntries fuel true) r.next
      | .blockEntry =>
        if place = .blockOrIndentless then sequence (indentlessItems fuel) r
        else r.unwritten name address
      | .blockSequenceStart =>
        if place = .flow then r.unwritten name address
        else sequence (blockItems fuel) r.next
      | .blockMappingStart =>
        if place = .flow then r.unwritten name address
        else mapping (blockEntries fuel) r.next
      | _ => r.unwritten name address

/-- A node, unless one of the tokens that `stops` holds of comes first. -/
def nodeUnless : Nat → Place → (Token → Bool) → Reader → Except Fault (Nat × Reader)
  | 0, _, _, _ => .error .malformed
  | fuel + 1, place, stops, r =>
    if stops r.peek then r.absent else node fuel place r

/-- The value of an entry: nothing, unless a value mark is ahead. -/
def entryValue : Nat → Place → (Token → Bool) → Reader → Except Fault (Nat × Reader)
  | 0, _, _, _ => .error .malformed
  | fuel + 1, place, stops, r => do
    r.readable
    if r.peek = .value then nodeUnless fuel place stops r.next else r.absent

/-- The items of a block sequence, up to its end. -/
def blockItems : Nat → Reader → Except Fault (List Nat × Reader)
  | 0, _ => .error .malformed
  | fuel + 1, r =>
    match r.peek with
    | .blockEntry => do
      let (n, r) ← nodeUnless fuel .block (fun t => t = .blockEntry ∨ t = .blockEnd) r.next
      let (more, r) ← blockItems fuel r
      return (n :: more, r)
    | .blockEnd => .ok ([], r.next)
    | _ => .error r.refusal

/-- The items of a sequence at the margin of the mapping around it. -/
def indentlessItems : Nat → Reader → Except Fault (List Nat × Reader)
  | 0, _ => .error .malformed
  | fuel + 1, r =>
    match r.peek with
    | .blockEntry => do
      let (n, r) ← nodeUnless fuel .block
        (fun t => t = .blockEntry ∨ t = .key ∨ t = .value ∨ t = .blockEnd) r.next
      let (more, r) ← indentlessItems fuel r
      return (n :: more, r)
    | .unreadable f => .error f
    | _ => .ok ([], r)

/-- The entries of a block mapping, up to its end. -/
def blockEntries : Nat → Reader → Except Fault (List (Nat × Nat) × Reader)
  | 0, _ => .error .malformed
  | fuel + 1, r =>
    let stops (t : Token) : Bool := t = .key ∨ t = .value ∨ t = .blockEnd
    match r.peek with
    | .key => do
      let (k, r) ← nodeUnless fuel .blockOrIndentless stops r.next
      let (v, r) ← entryValue fuel .blockOrIndentless stops r
      let (more, r) ← blockEntries fuel r
      return ((k, v) :: more, r)
    | .blockEnd => .ok ([], r.next)
    | _ => .error r.refusal

/-- The items of a flow sequence, up to its end.  An item with a key mark is a mapping of one
entry. -/
def flowItems : Nat → Bool → Reader → Except Fault (List Nat × Reader)
  | 0, _, _ => .error .malformed
  | fuel + 1, first, r =>
    if r.peek = .flowSequenceEnd then .ok ([], r.next)
    else if !first && r.peek ≠ .flowEntry then .error r.refusal
    else
      let r := if first then r else r.next
      match r.peek with
      | .flowSequenceEnd => .ok ([], r.next)
      | .key => do
        let entry (r : Reader) : Except Fault (Content × Reader) := do
          let (k, r) ← nodeUnless fuel .flow
            (fun t => t = .value ∨ t = .flowEntry ∨ t = .flowSequenceEnd) r.next
          let (v, r) ← entryValue fuel .flow (fun t => t = .flowEntry ∨ t = .flowSequenceEnd) r
          return (.mapping [(k, v)], r)
        let (n, r) ← collection none .mapping entry r
        let (more, r) ← flowItems fuel false r
        return (n :: more, r)
      | _ => do
        let (n, r) ← node fuel .flow r
        let (more, r) ← flowItems fuel false r
        return (n :: more, r)

/-- The entries of a flow mapping, up to its end.  A key without a mark has no value. -/
def flowEntries : Nat → Bool → Reader → Except Fault (List (Nat × Nat) × Reader)
  | 0, _, _ => .error .malformed
  | fuel + 1, first, r =>
    if r.peek = .flowMappingEnd then .ok ([], r.next)
    else if !first && r.peek ≠ .flowEntry then .error r.refusal
    else
      let r := if first then r else r.next
      match r.peek with
      | .flowMappingEnd => .ok ([], r.next)
      | .key => do
        let (k, r) ← nodeUnless fuel .flow
          (fun t => t = .value ∨ t = .flowEntry ∨ t = .flowMappingEnd) r.next
        let (v, r) ← entryValue fuel .flow (fun t => t = .flowEntry ∨ t = .flowMappingEnd) r
        let (more, r) ← flowEntries fuel false r
        return ((k, v) :: more, r)
      | _ => do
        let (k, r) ← node fuel .flow r
        let (v, r) ← r.absent
        let (more, r) ← flowEntries fuel false r
        return ((k, v) :: more, r)

end

/-! ## Documents -/

/-- The handles set by the directives ahead. -/
def directives : List Token → Bool → List (String × String) →
    Except Fault (List (String × String) × List Token)
  | .directive d :: rest, versioned, handles =>
    match d with
    | .version major =>
      if versioned || major ≠ 1 then .error .malformed else directives rest true handles
    | .tagHandle handle expansion =>
      if (handles.lookup handle).isSome then .error .malformed
      else directives rest versioned ((handle, expansion) :: handles)
    | .other => directives rest versioned handles
  | .unreadable f :: _, _, _ => .error f
  | rest, _, handles => .ok (handles, rest)

/-- The calls that a token list can need at most. -/
def bound (ts : List Token) : Nat := 4 * ts.length + 8

/-- What may follow the only document: its end, and the end of the text. -/
def finished (r : Reader) : Except Fault Unit :=
  match r.rest.dropWhile (· = .documentEnd) with
  | [.streamEnd] => .ok ()
  | rest => do
    let _ ← directives rest false []
    throw .malformed

end Reader

/-- A document: its nodes, and the number of the one that all others are part of. -/
structure Document where
  graph : Graph
  root : Nat
  deriving Repr

namespace Reader

/-- The document whose first node is ahead, or a document of nothing. -/
def document (empty : Bool) (r : Reader) : Except Fault Document := do
  let (root, r) ← if empty then r.absent else r.node (bound r.rest) .block
  r.finished
  return ⟨r.graph, root⟩

/-- A document behind its directives and its first line. -/
def explicitDocument (ts : List Token) : Except Fault Document := do
  let (handles, rest) ← directives ts false []
  match rest with
  | .documentStart :: rest =>
    let r : Reader := { rest := rest, handles := handles ++ defaultHandles }
    let empty := match r.peek with
      | .directive _ | .documentStart | .documentEnd | .streamEnd => true
      | _ => false
    r.document empty
  | _ => throw .malformed

end Reader

/-- The one document of a token list, `none` when the text holds no document. -/
def document? (ts : List Token) : Except Fault (Option Document) :=
  match ts with
  | [.streamEnd] => .ok none
  | .directive _ :: _ => (Reader.explicitDocument ts).map some
  | .documentStart :: _ => (Reader.explicitDocument ts).map some
  | _ =>
    let r : Reader := { rest := ts, handles := Reader.defaultHandles }
    (r.document false).map some

end DumpKeeper.Yaml
