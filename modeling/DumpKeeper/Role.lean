import DumpKeeper.Text.Blank
import DumpKeeper.Text.Lowercase
import DumpKeeper.Value

/-!
# Roles of a node

A Redis node is the primary of a group or one of its replicas, and it says which when asked about
its replication.  A failover can change the role at any time.

* `Role`, `Role.name` — the roles.
* `Role.ofReported` — the role that a node reports, blanks and letter case aside.
* `Role.ofInfo` — the role in an answer about replication.
* `Role.selected` — whether a node of that role is backed up.
-/

set_option autoImplicit false

namespace DumpKeeper

/-- The role of a node. -/
inductive Role where
  | primary
  | secondary
  | unknown
  deriving DecidableEq, Repr, Inhabited

namespace Role

/-- The name of a role. -/
def name : Role → String
  | primary => "primary"
  | secondary => "secondary"
  | unknown => "unknown"

/-- The words that nodes use for a primary. -/
def primaryWords : List String := ["master", "primary"]

/-- The words that nodes use for a replica. -/
def secondaryWords : List String := ["slave", "replica", "secondary"]

/-- The role that a node reports. -/
def ofReported : Value → Role
  | .text s =>
    let word := String.ofList (Text.lowercase (Text.trim s.toList))
    if primaryWords.contains word then primary
    else if secondaryWords.contains word then secondary
    else unknown
  | _ => unknown

/-- The role in an answer about replication, which is a mapping if all is well. -/
def ofInfo : Value → Role
  | .map entries => ofReported ((Value.lookup? "role" entries).getD .null)
  | _ => unknown

/-- Whether a node of this role is backed up, where `master` and `replica` say which roles are.
When the role is not known it is better to have a backup too many than one too few. -/
def selected (master replica : Bool) : Role → Bool
  | primary => master
  | secondary => replica
  | unknown => true

end Role

end DumpKeeper
