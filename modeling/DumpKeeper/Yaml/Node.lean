import DumpKeeper.Yaml.Tag

/-!
# The nodes of a YAML document

A document is made of scalars, sequences and mappings.  An alias stands for the very node with its
anchor, so that one node may be part of several collections, and even of itself.  Nodes are
therefore numbered, and a collection names its parts by their numbers.

* `Content`, `Node` — a node.
* `Graph` — the nodes of a document; a node may be changed in place.
-/

set_option autoImplicit false

namespace DumpKeeper.Yaml

/-- What a node holds.  The parts of collections are the numbers of other nodes. -/
inductive Content where
  | scalar (text : String)
  | sequence (items : List Nat)
  | mapping (entries : List (Nat × Nat))
  deriving DecidableEq, Inhabited, Repr

/-- A node: its kind and what it holds. -/
structure Node where
  tag : Tag
  content : Content
  deriving DecidableEq, Inhabited, Repr

/-- The nodes of a document, by number. -/
structure Graph where
  nodes : Array Node := #[]
  deriving Repr

namespace Graph

/-- The node of a number. -/
def node (g : Graph) (n : Nat) : Node := g.nodes.getD n default

/-- What the node of a number holds. -/
def content (g : Graph) (n : Nat) : Content := (g.node n).content

/-- The kind of the node of a number. -/
def tag (g : Graph) (n : Nat) : Tag := (g.node n).tag

/-- The entries of a mapping. -/
def entries (g : Graph) (n : Nat) : List (Nat × Nat) :=
  match g.content n with
  | .mapping es => es
  | _ => []

/-- A new node, and the number it has. -/
def add (new : Node) (g : Graph) : Nat × Graph :=
  (g.nodes.size, ⟨g.nodes.push new⟩)

/-- A node with other contents. -/
def fill (n : Nat) (content : Content) (g : Graph) : Graph :=
  ⟨g.nodes.modify n fun old => { old with content := content }⟩

/-- A node of another kind. -/
def mark (n : Nat) (tag : Tag) (g : Graph) : Graph :=
  ⟨g.nodes.modify n fun old => { old with tag := tag }⟩

end Graph

end DumpKeeper.Yaml
