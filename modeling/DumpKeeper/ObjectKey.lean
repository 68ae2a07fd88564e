import DumpKeeper.Config.Settings

/-!
# Keys of backups

The key of a backup names the folder, the node and the second in which the dump was changed.  It is
made of the dump alone, so a dump that did not change goes to the key it already has.

* `stamp` — a point in time as it stands in a key.
* `backupKey?` — the key of a dump.
* `nodeFolder` — what the keys of one node begin with.
-/

set_option autoImplicit false

namespace DumpKeeper

/-- Date and time of the day of the UTC clock `t`, the year without leading zeros. -/
def stamp (t : DateTime) : String :=
  DateTime.dateText 1 t.date ++ "T" ++ t.timeText ++ "Z"

/-- The `name` below `folder`; slashes at the end of the folder do not count. -/
def inFolder (folder name : String) : String :=
  let folder := dropEndSlashes folder
  if folder.isEmpty then name else folder ++ "/" ++ name

/-- What the keys of the backups of `node` begin with. -/
def nodeFolder (folder node : String) : String :=
  inFolder folder (node ++ "_")

/-- The key of a dump that was changed at the given time; `none` when that time is none that the UTC
clock can show. -/
def backupKey? (folder node : String) (changed : DateTime) : Option String :=
  changed.toUtcSeconds?.map fun t => inFolder folder (node ++ "_" ++ stamp t ++ ".rdb")

end DumpKeeper
