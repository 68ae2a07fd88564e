import DumpKeeper.Clock
import DumpKeeper.FileTree
import DumpKeeper.Replication.Address
import DumpKeeper.Service.Call
import DumpKeeper.Service.Objects
import DumpKeeper.Service.Parts

/-!
# What the program meets

The program works with things that are not its own: the objects of a bucket, a Redis node, files, a
clock.  A world holds all of them, the faults that are planned for calls, and the calls made so far.

* `World` — the world.
* `World.listing` — the objects whose keys begin with a text, as the store lists them.
* `World.ask` — a call: it is noted down, and fails if a fault is planned for it.
* `World.store`, `World.keepPart`, `World.join?` — what calls leave behind when they do not fail.
* `Change`, `World.change` — the ways in which the world changes by itself.
-/

set_option autoImplicit false

namespace DumpKeeper

/-- How large an upload may be before it is sent in parts, and how large the parts are. -/
structure PartLimits where
  threshold : Int := 104857600
  chunk : Int := 10485760
  deriving DecidableEq, Repr, Inhabited

/-- The folders that a system has, and the file that is always empty. -/
def systemEntries : List (List String × FileEntry) :=
  (["dev", "null"], .file .empty ⟨0, 0⟩) ::
    ["bin", "boot", "dev", "etc", "home", "lib", "media", "mnt", "opt", "proc", "root", "run",
     "sbin", "srv", "sys", "tmp", "usr", "var"].map fun name => ([name], .folder)

/-- A part of an upload, as the store keeps it; `mark` is what the store has answered it with. -/
structure StoredPart where
  upload : String
  number : Nat
  mark : String
  body : ByteArray
  deriving Inhabited

/-- The world.  `order` is the order in which the store lists its objects.  `faults` are planned by
the name of the call, in order; `none` lets a call pass.  `parts` are those of uploads that have
begun, and `partMark` is how the store marks a part, by its upload, number and body.
`checkAddress` is what the library that makes a client has against the address of a node. -/
structure World where
  objects : Objects := []
  order : Arrangement := .byArrival
  parts : List StoredPart := []
  partMark : String → Nat → ByteArray → String := fun _ number _ => "etag-" ++ toString number
  uploads : Nat := 0
  faults : List (String × Option ServiceFault) := []
  calls : List Call := []
  now : Reading := .whole 1705320005
  elapsed : Reading := .fractional 0.5
  pageSize : Nat := 1000
  limits : PartLimits := {}
  checkAddress : String → Except String Unit := Replication.checkAddress
  info : Value := .map [(.text "role", .text "master")]
  files : FileTree := { cwd := ["<cwd>"], cwdName := "<cwd>", entries := systemEntries }
  deriving Inhabited

namespace World

/-- The first fault planned for `name`, and the faults that are left. -/
def due (name : String) : List (String × Option ServiceFault) →
    Option ServiceFault × List (String × Option ServiceFault)
  | [] => (none, [])
  | e :: rest =>
    if e.1 == name then (e.2, rest)
    else
      let (f, left) := due name rest
      (f, e :: left)

/-- Whether a fault is due for `name`; it is no longer planned afterwards. -/
def meet (w : World) (name : String) : Except ServiceFault Unit × World :=
  let (f, left) := due name w.faults
  (match f with | some f => .error f | none => .ok (), { w with faults := left })

/-- The call `c`, noted down. -/
def record (w : World) (c : Call) : World := { w with calls := w.calls ++ [c] }

/-- The call `c`, which fails if a fault is due for it. -/
def ask (w : World) (c : Call) : Except ServiceFault Unit × World :=
  (w.record c).meet c.name

/-- The object of `key` with the `content`, stored at the time `now`. -/
def store (w : World) (key : String) (content : ByteArray) (now : DateTime) : World :=
  { w with objects := Objects.put ⟨key, content, some content.size, some now⟩ w.objects }

/-- The world `w` without the object under `key`. -/
def discard (w : World) (key : String) : World :=
  { w with objects := w.objects.erase key }

/-- The name of the upload with the number `n`. -/
def uploadName (n : Nat) : String := "upload-" ++ toString n

/-- The world `w` with one more upload, and the name of that. -/
def begin (w : World) : String × World :=
  (uploadName (w.uploads + 1), { w with uploads := w.uploads + 1 })

/-- The part `body` of the upload `id`, kept until the upload is complete; the answer is its
mark. -/
def keepPart (w : World) (id : String) (number : Nat) (body : ByteArray) : String × World :=
  let mark := w.partMark id number body
  (mark, { w with parts := w.parts ++ [⟨id, number, mark, body⟩] })

/-- The part of the upload `id` with the number and the mark that are `wanted`.  Only the last part
that was sent under a number is kept. -/
def part? (w : World) (id : String) (wanted : Nat × String) : Option ByteArray :=
  (w.parts.reverse.find? fun p => p.upload == id && p.number == wanted.1).bind fun p =>
    if p.mark == wanted.2 then some p.body else none

/-- The parts of the upload `id` that are `wanted`, one after the other, unless one of them is not
there. -/
def join? (w : World) (id : String) (wanted : List (Nat × String)) : Option ByteArray :=
  if wanted.all fun m => (w.part? id m).isSome then
    some (joined (wanted.filterMap (w.part? id)))
  else none

/-- The objects whose keys begin with `beginning`, as the store lists them. -/
def listing (w : World) (beginning : String) : Objects :=
  w.order.arranged (w.objects.below beginning)

/-- The listing is made of the objects whose keys begin with `beginning`, in some order. -/
theorem listing_perm (w : World) (beginning : String) :
    (w.listing beginning).Perm (w.objects.below beginning) :=
  w.order.perm _

/-- The call `c` succeeds if nothing is planned. -/
theorem ask_of_no_faults (w : World) (c : Call) (h : w.faults = []) :
    w.ask c = (.ok (), { w with calls := w.calls ++ [c] }) := by
  simp [ask, meet, record, h, due]

end World

/-! ## Changes -/

/-- The ways in which the world changes by itself. -/
inductive Change where
  | object (key : String) (size : Option Int) (time : Option DateTime)
  | now (r : Reading)
  | elapsed (r : Reading)
  | role (info : Value)
  | fail (call : String) (faults : List (Option ServiceFault))
  | limits (l : PartLimits)
  | file (path : FilePath) (content : ByteArray) (changed : FileTime)
  | folder (path : FilePath)
  | remove (path : FilePath)
  | refuse (call : FileCall) (path : FilePath) (r : Option Refusal)
  deriving Inhabited

/-- The world `w` after a change. -/
def World.change (w : World) : Change → World
  | .object key size time => { w with objects := Objects.put ⟨key, .empty, size, time⟩ w.objects }
  | .now r => { w with now := r }
  | .elapsed r => { w with elapsed := r }
  | .role info => { w with info := info }
  | .fail call faults => { w with faults := w.faults ++ faults.map fun f => (call, f) }
  | .limits l => { w with limits := l }
  | .file path content changed => { w with files := w.files.write path content changed }
  | .folder path => { w with files := w.files.makeFolders path }
  | .remove path => { w with files := w.files.remove path }
  | .refuse call path r => { w with files := w.files.refuse call path r }

end DumpKeeper
