import DumpKeeper.FilePath
import DumpKeeper.Text.Quoted

/-!
# Files and folders

The program reads its configuration and the dump, and opens a log file.  A file tree holds what it
can find there, and what the system will not do with it.

* `FileTree` — the files and folders below a working folder.
* `FileFault` — why a path leads nowhere; `Refusal` — why the system refuses to go there.
* `FileTree.find` — what a path leads to, each part looked up in the folder before it.
* `FileTree.ask` — what the system answers to a `FileCall`, and `FileTree.isThere`, `FileTree.stat`,
  `FileTree.read` — the three calls.
* `FileTree.makeFolders`, `FileTree.write`, `FileTree.remove` — the ways in which a tree changes.
-/

set_option autoImplicit false

namespace DumpKeeper

/-- A time at which a file was changed: seconds since 1970 and nanoseconds. -/
structure FileTime where
  seconds : Int
  nanos : Nat
  deriving DecidableEq, Repr, Inhabited

/-- What a path can lead to. -/
inductive FileEntry where
  | folder
  | file (content : ByteArray) (changed : FileTime)
  deriving Inhabited

/-- When an entry was changed; nobody looks at the time of a folder. -/
def FileEntry.changed : FileEntry → FileTime
  | .folder => ⟨0, 0⟩
  | .file _ changed => changed

/-- What the system is asked to do with a path: to look whether it leads anywhere, to tell about
what is there, or to read it. -/
inductive FileCall where
  | look
  | stat
  | read
  deriving DecidableEq, Repr

/-- Why the system does not do what it is asked for, whatever there is. -/
inductive Refusal where
  /-- There is no permission. -/
  | denied
  /-- The device fails before anything is read. -/
  | device
  /-- The device fails while the file is read; by then the path is no longer known. -/
  | cutOff
  deriving DecidableEq, Repr

/-- Why a path leads nowhere, or not to what is asked for. -/
inductive FileFault where
  | notFound
  | notAFolder
  | isAFolder
  | nameTooLong
  | refused (r : Refusal)
  deriving DecidableEq, Repr

/-- The words of the system for a fault. -/
def FileFault.words : FileFault → String
  | .notFound => "[Errno 2] No such file or directory"
  | .notAFolder => "[Errno 20] Not a directory"
  | .isAFolder => "[Errno 21] Is a directory"
  | .nameTooLong => "[Errno 36] File name too long"
  | .refused .denied => "[Errno 13] Permission denied"
  | .refused .device => "[Errno 5] Input/output error"
  | .refused .cutOff => "[Errno 5] Input/output error"

/-- The words of the system together with `path`, quoted, if it is known. -/
def FileFault.message (f : FileFault) (path : String) : String :=
  match f with
  | .refused .cutOff => f.words
  | f => f.words ++ ": " ++ Text.quoted path

/-- The files and folders below a root.  `cwd` are the parts of the working folder, which exists
together with all folders around it, and `cwdName` is how messages name it.  `refusals` are the
calls that the system refuses, by what it is asked to do and the path that it is asked for. -/
structure FileTree where
  cwd : List String
  cwdName : String
  entries : List (List String × FileEntry) := []
  refusals : FileCall → FilePath → Option Refusal := fun _ _ => none
  deriving Inhabited

namespace FileTree

/-- A tree of the files and folders in `entries` at the root, without a folder of its own. -/
def ofEntries (entries : List (List String × FileEntry)) : FileTree :=
  { cwd := [], cwdName := "", entries }

/-- What is at `place`, which is given by its parts from the root. -/
def at? (t : FileTree) (place : List String) : Option FileEntry :=
  if place.isPrefixOf t.cwd then some .folder else t.entries.lookup place

/-- The character that ends a name for the system, and so is part of none. -/
def endOfName : Char := '\x00'

/-- The most bytes a part of a path may have. -/
def nameLimit : Nat := 255

/-- The most bytes a path may have. -/
def pathLimit : Nat := 4095

/-- Where the parts of a path lead from `place`, and what is there. -/
def walk (t : FileTree) (place : List String) :
    List String → Except FileFault (List String × FileEntry)
  | [] =>
    match t.at? place with
    | some e => .ok (place, e)
    | none => .error .notFound
  | name :: rest =>
    match t.at? place with
    | none => .error .notFound
    | some (.file _ _) => .error .notAFolder
    | some .folder =>
      if name = ".." then t.walk place.dropLast rest
      else if nameLimit < name.utf8ByteSize then .error .nameTooLong
      else t.walk (place ++ [name]) rest

/-- What the path `p` leads to. -/
def find (t : FileTree) (p : FilePath) : Except FileFault FileEntry :=
  if p.parts.any fun name => name.toList.contains endOfName then .error .notFound
  else if pathLimit < p.toString.utf8ByteSize then .error .nameTooLong
  else (t.walk (if p.root.isEmpty then t.cwd else []) p.parts).map (·.2)

/-- What the system finds at the path `p` when it is asked to do what `c` says, unless it
refuses. -/
def ask (t : FileTree) (c : FileCall) (p : FilePath) : Except FileFault FileEntry :=
  match t.refusals c p with
  | some r => .error (.refused r)
  | none => t.find p

theorem ask_eq_ok_iff {t : FileTree} {c : FileCall} {p : FilePath} {e : FileEntry} :
    t.ask c p = .ok e ↔ t.refusals c p = none ∧ t.find p = .ok e := by
  rw [ask]
  split <;> simp [*]

/-- Whether the path `p` leads to something; a refusal and a name that is too long are faults of
their own. -/
def isThere (t : FileTree) (p : FilePath) : Except FileFault Bool :=
  match t.ask .look p with
  | .ok _ => .ok true
  | .error .nameTooLong => .error .nameTooLong
  | .error (.refused r) => .error (.refused r)
  | .error _ => .ok false

/-- What the path `p` leads to, as the system tells. -/
def stat (t : FileTree) (p : FilePath) : Except FileFault FileEntry := t.ask .stat p

/-- The content of the file that the path `p` leads to. -/
def read (t : FileTree) (p : FilePath) : Except FileFault ByteArray := do
  match ← t.ask .read p with
  | .file content _ => return content
  | .folder => throw .isAFolder

theorem read_eq_ok_iff {t : FileTree} {p : FilePath} {content : ByteArray} :
    t.read p = .ok content ↔
      t.refusals .read p = none ∧ ∃ changed, t.find p = .ok (.file content changed) := by
  rw [read, ask]
  rcases t.refusals .read p with _ | r
  · rcases t.find p with f | e | ⟨found, changed⟩ <;>
      simp [bind, Except.bind, pure, Except.pure, throw, throwThe, MonadExceptOf.throw]
  · simp [bind, Except.bind]

/-- The tree `t`, but the system refuses the call `c` for the path `p` from now on, or no longer. -/
def refuse (t : FileTree) (c : FileCall) (p : FilePath) (r : Option Refusal) : FileTree :=
  { t with refusals := fun d q => if d = c ∧ q = p then r else t.refusals d q }

/-- The entry `e` put at `place`, instead of what was there. -/
def put (t : FileTree) (place : List String) (e : FileEntry) : FileTree :=
  { t with entries := (place, e) :: t.entries.filter (·.1 != place) }

/-- The folders along the path `p`, made where there is nothing. -/
def makeFolders (t : FileTree) (p : FilePath) : FileTree :=
  let place := FilePath.absolute t.cwd p
  (List.range place.length).foldl (fun t n =>
    let here := place.take (n + 1)
    if (t.at? here).isSome then t else t.put here .folder) t

/-- A file at the path `p` with its `content`, the folders above it made. -/
def write (t : FileTree) (p : FilePath) (content : ByteArray) (changed : FileTime) : FileTree :=
  let place := FilePath.absolute t.cwd p
  (t.makeFolders ⟨"/", place.dropLast⟩).put place (.file content changed)

/-- The tree `t` without what the path `p` leads to. -/
def remove (t : FileTree) (p : FilePath) : FileTree :=
  let place := FilePath.absolute t.cwd p
  { t with entries := t.entries.filter fun e => !place.isPrefixOf e.1 }

/-- The text of `place` below `root`. -/
def textBelow (root : String) (place : List String) : String := root ++ "/".intercalate place

/-- The tree `t` with the file at `place` opened for writing at its end; it is made, empty, if there
is none. -/
def openAt (t : FileTree) (place : List String) : Except FileFault FileTree :=
  if pathLimit < (textBelow "/" place).utf8ByteSize then .error .nameTooLong
  else match t.walk [] place with
  | .ok (_, .file _ _) => .ok t
  | .ok (_, .folder) => .error .isAFolder
  | .error .notFound =>
    match t.walk [] place.dropLast with
    | .ok (_, .folder) => .ok (t.put place (.file .empty ⟨0, 0⟩))
    | _ => .error .notFound
  | .error f => .error f

/-- The whole text of the path `p`; the working folder is written by its name. -/
def fullText (t : FileTree) (p : FilePath) : String :=
  let place := FilePath.absolute t.cwd p
  if p.root = "//" then textBelow p.root place
  else if t.cwd.isPrefixOf place then "/".intercalate (t.cwdName :: place.drop t.cwd.length)
  else textBelow "/" place

end FileTree

end DumpKeeper
