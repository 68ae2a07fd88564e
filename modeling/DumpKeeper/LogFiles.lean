import DumpKeeper.FileTree

/-!
# Files of entries

The file that entries are written to does not grow without bounds.  Before a line would make it too
large, it is moved aside and a new one is begun, and of those that were moved aside the newest are
kept.  If the system does not let the files be moved, they stay as they are, and the line is lost.

* `LogFiles` — the file that is written to, and the older ones.
* `LogFiles.isFull`, `LogFiles.rollOver`, `LogFiles.append` — whether a line still fits, a new file,
  and one more line.
* `LogFiles.emit`, `LogFiles.receive` — what becomes of one line, and of many.
* `FileTree.logFiles` — the files at a place of a tree.
-/

set_option autoImplicit false

namespace DumpKeeper

/-- The bytes that a file of entries stays below. -/
def logFileLimit : Nat := 10485760

/-- How many older files are kept. -/
def keptLogFiles : Nat := 10

/-- The file that is written to, `current`, and those that were moved aside, `older`, the newest
first.  `moves` tells whether the next attempts to move files succeed; those after them do. -/
structure LogFiles where
  current : ByteArray := .empty
  older : List ByteArray := []
  moves : List Bool := []
  deriving Inhabited

namespace LogFiles

/-- Whether `line` is too much for the file.  What is there is counted in bytes, and what is to come
in characters. -/
def isFull (f : LogFiles) (line : String) : Bool :=
  logFileLimit ≤ f.current.size + line.length

/-- Whether the files of `f` can be moved now. -/
def canMove (f : LogFiles) : Bool := f.moves.head?.getD true

/-- The files of `f` moved: the oldest may be gone, and there is a new one. -/
def rollOver (f : LogFiles) : LogFiles :=
  { f with current := .empty, older := (f.current :: f.older).take keptLogFiles }

/-- The files of `f` with one more `line` at the end. -/
def append (f : LogFiles) (line : String) : LogFiles :=
  { f with current := f.current ++ line.toUTF8 }

/-- What becomes of `line`, which a file takes or does not: whether it is written, and the files
after that.  Files are moved for a line that is not taken, too. -/
def emit (f : LogFiles) (line : String) (taken : Bool) : Bool × LogFiles :=
  if f.isFull line then
    let rest : LogFiles := { f with moves := f.moves.tail }
    if !f.canMove then (false, rest)
    else (taken, if taken then rest.rollOver.append line else rest.rollOver)
  else (taken, if taken then f.append line else f)

/-- The items that are written, of some that come one after another as lines, and the files after
that.  `takes` tells which items can be written at all. -/
def receive {α : Type} (line : α → String) (takes : α → Bool) :
    LogFiles → List α → List α × LogFiles
  | f, [] => ([], f)
  | f, a :: rest =>
    let (written, f) := f.emit (line a) (takes a)
    let (received, f) := receive line takes f rest
    (if written then a :: received else received, f)

end LogFiles

namespace FileTree

/-- The content of the file at `place`, if there is one. -/
def contentAt? (t : FileTree) (place : List String) : Option ByteArray :=
  match t.at? place with
  | some (.file content _) => some content
  | _ => none

/-- The place to which the file of a place is moved when it is the `n`th. -/
def olderPlace (place : List String) (n : Nat) : List String :=
  place.dropLast ++ [(place.getLast?.getD "") ++ "." ++ toString n]

/-- The files of entries at `place`: the one that is there, and the older ones as far as they are
numbered without a gap.  `moves` tells of each attempt to move them whether it works. -/
def logFiles (t : FileTree) (place : List String) (moves : List Bool) : LogFiles where
  current := (t.contentAt? place).getD .empty
  older :=
    (((List.range keptLogFiles).map fun n => t.contentAt? (olderPlace place (n + 1))).takeWhile
      Option.isSome).filterMap id
  moves := moves

end FileTree

end DumpKeeper
