import DumpKeeper.Storage.Guard

/-!
# Backups in a GCS store

A dump is stored with one call.  A listing is read entry by entry, and an object that is gone
already counts as deleted.

* `Gcs.upload`, `Gcs.list`, `Gcs.delete` — the three operations.
-/

set_option autoImplicit false

namespace DumpKeeper.Gcs

/-- A dump with the `content` stored under `key`. -/
def upload (bucket key : String) (content : ByteArray) : Act Unit :=
  guarded .gcs (.upload key) do
    request (.uploadBlob bucket key content)
    let now ← currentTime
    changeWorld fun w => w.store key content now

/-- The next entry of a listing, which may fail to come. -/
def meetNext : Act Unit := do
  let (answer, world) := (← get).world.meet nextBlobName
  changeWorld fun _ => world
  match answer with
  | .ok () => pure ()
  | .error f => fail (.service f)

/-- The records of entries, one after the other. -/
def readEntries : Objects → Act (List Record)
  | [] => pure []
  | o :: rest => do
    meetNext
    let record ← liftM (recordOf o)
    let more ← readEntries rest
    return record.toList ++ more

/-- The stored backups whose keys begin with `beginning`. -/
def list (bucket beginning : String) : Act (List Record) :=
  guarded .gcs (.list beginning) do
    request (.listBlobs bucket beginning)
    readEntries ((← get).world.listing beginning)

/-- The call that removes the object under `key`, which must be there. -/
def remove (bucket key : String) : Act Unit := do
  request (.deleteBlob bucket key)
  let world := (← get).world
  if (world.objects.get? key).isSome then changeWorld fun w => w.discard key
  else fail (.service (.status ServiceFault.notFoundStatus key))

/-- The object under `key` removed; one that is not there is noted and is no error. -/
def delete (bucket key : String) : Act Unit :=
  guarded .gcs (.delete key) do
    match ← attempt (remove bucket key) with
    | .ok () => pure ()
    | .error (.service f) =>
      if f.isNotFound then say .debug .storage ("GCS object " ++ key ++ " already absent")
      else fail (.service f)
    | .error f => fail f

end DumpKeeper.Gcs
