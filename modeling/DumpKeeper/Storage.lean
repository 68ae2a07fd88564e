import DumpKeeper.Storage.Gcs
import DumpKeeper.Storage.S3

/-!
# Storage of backups

The two kinds of stores have the same three operations: store a dump under a key, list the backups
whose keys begin with a text, and delete a key.

* `Store.connect` — a connection to the store of a target.
* `Store.upload`, `Store.list`, `Store.delete` — the operations.
* `Store.described` — a store as messages show it.
-/

set_option autoImplicit false

namespace DumpKeeper

/-- The kind of store that goes by `name`, which must be known. -/
def BackendKind.ofName (name : String) : Except Failure BackendKind :=
  match BackendKind.named? name with
  | some kind => .ok kind
  | none => .error (.unknownKind name)

namespace Store

/-- The call that makes the client of the target `t`. -/
def clientCall (t : StorageTarget) : Call :=
  match t.kind with
  | .s3 => .openS3 t.region t.endpoint
  | .gcs => .openGcs t.projectId

/-- A connection to the store of the target `t`. -/
def connect (t : StorageTarget) : Act Store := do
  match ← attempt (request (clientCall t)) with
  | .ok () => return ⟨t.kind, t.bucket⟩
  | .error (.service f) =>
    if f.refusesClient t.kind then fail (.storage ⟨t.kind, .connect, f⟩)
    else fail (.service f)
  | .error f => fail f

/-- A dump with the `content` stored under `key`. -/
def upload (s : Store) (key : String) (content : ByteArray) : Act Unit :=
  match s.kind with
  | .s3 => S3.upload s.bucket key content
  | .gcs => Gcs.upload s.bucket key content

/-- The stored backups whose keys begin with `beginning`, in the order of the store. -/
def list (s : Store) (beginning : String) : Act (List Record) :=
  match s.kind with
  | .s3 => S3.list s.bucket beginning
  | .gcs => Gcs.list s.bucket beginning

/-- The object under `key` removed, if it is there. -/
def delete (s : Store) (key : String) : Act Unit :=
  match s.kind with
  | .s3 => S3.delete s.bucket key
  | .gcs => Gcs.delete s.bucket key

/-- The store `s` as messages show it. -/
def described (s : Store) : String :=
  "<" ++ s.kind.capitals ++ "Storage bucket=" ++ s.bucket ++ ">"

end Store

end DumpKeeper
