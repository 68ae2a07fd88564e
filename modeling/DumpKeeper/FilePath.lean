/-!
# Paths of files

A path is kept by its parts, so that repeated slashes, single dots and a slash at the end leave no
trace.  A path that begins with exactly two slashes is told apart from one that begins with one.

* `FilePath`, `FilePath.ofString` — the type, and a path from its text.
* `FilePath.join` — a path below another; a path that starts at a root stands by itself.
* `FilePath.toString` — the text of a path; the path without parts is `.`.
* `FilePath.absolute` — the parts of a path from a root, `..` resolved by the text alone.
-/

set_option autoImplicit false

namespace DumpKeeper

/-- A path: what it starts with, and its parts. -/
structure FilePath where
  root : String
  parts : List String
  deriving DecidableEq, Repr, Inhabited

namespace FilePath

/-- What the text `cs` starts at: nothing, one slash, or exactly two. -/
def rootOf (cs : List Char) : String :=
  match (cs.takeWhile (· == '/')).length with
  | 0 => ""
  | 2 => "//"
  | _ => "/"

/-- The parts of the text `cs` between slashes, without those that say nothing. -/
def partsOf (cs : List Char) : List String :=
  ((cs.splitOn '/').filter fun p => p != [] && p != ['.']).map String.ofList

/-- The path that the text `s` names. -/
def ofString (s : String) : FilePath :=
  ⟨rootOf s.toList, partsOf s.toList⟩

/-- The path `q` seen from `p`. -/
def join (p q : FilePath) : FilePath :=
  if q.root.isEmpty then ⟨p.root, p.parts ++ q.parts⟩ else q

/-- The text of the path `p`. -/
def toString (p : FilePath) : String :=
  if p.root.isEmpty && p.parts.isEmpty then "." else p.root ++ "/".intercalate p.parts

/-- Parts with every `..` undoing the part before it; at a root it has nothing to undo. -/
def resolve (parts : List String) : List String :=
  (parts.foldl (fun done p => if p = ".." then done.drop 1 else p :: done) []).reverse

/-- The parts of a path seen from the directory with the parts `cwd`. -/
def absolute (cwd : List String) (p : FilePath) : List String :=
  resolve (if p.root.isEmpty then cwd ++ p.parts else p.parts)

end FilePath

end DumpKeeper
