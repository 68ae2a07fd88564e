import DumpKeeper.Yaml.Token.Lexer
import DumpKeeper.Yaml.Unfolding

/-!
# The value of a YAML document

A text is cut into tokens, the tokens are read as nodes, and the nodes are built and looked at.

* `load` — the value of a text.
-/

set_option autoImplicit false

namespace DumpKeeper.Yaml

/-- The levels of a document whose values are looked at one by one: sections and settings. -/
def levels : Nat := 2

/-- The value of a text; a text without a document has the value `null`. -/
def load (t : Text.Legible) : Except Fault Value := do
  match ← document? (tokens t) with
  | some d => return (← build d).value levels d.root
  | none => return .null

end DumpKeeper.Yaml
