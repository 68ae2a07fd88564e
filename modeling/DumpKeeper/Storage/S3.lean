import DumpKeeper.Service.Parts
import DumpKeeper.Storage.Guard

/-!
# Backups in an S3 store

A dump is stored with one call, or in parts if it is large.  The parts of an upload that fails are
given up, so that none of them is left behind.  A listing comes page by page.

* `S3.upload`, `S3.list`, `S3.delete` — the three operations.
* `S3.uploadParts` — an upload in parts.
-/

set_option autoImplicit false

namespace DumpKeeper.S3

/-- The part `body` that has been sent under `number` is kept; the answer is the mark that the store
gives to it. -/
def keepPart (id : String) (number : Nat) (body : ByteArray) : Act String := do
  let (mark, world) := (← get).world.keepPart id number body
  changeWorld fun _ => world
  return mark

/-- The parts of a large dump, sent one after the other and numbered from one; the answer gives each
number with the mark of its part. -/
def sendParts (bucket key id : String) : Nat → List ByteArray → Act (List (Nat × String))
  | _, [] => pure []
  | number, body :: rest => do
    request (.uploadPart bucket key number id body)
    let mark ← keepPart id number body
    let more ← sendParts bucket key id (number + 1) rest
    return (number, mark) :: more

/-- The fault of parts that are joined by a number or a mark that the store does not know. -/
def invalidPart : ServiceFault :=
  .rejected (some "InvalidPart") (some "One or more of the specified parts could not be found.")
    "CompleteMultipartUpload"

/-- An upload of `content` whose parts are sent and then joined by their marks.  There is no part of
a size below zero. -/
def sendAll (bucket key id : String) (chunk : Int) (content : ByteArray) : Act Unit := do
  if chunk = 0 then fail (.service (.badValue "range() arg 3 must not be zero"))
  let marks ← sendParts bucket key id 1 (partsOf chunk.toNat content)
  request (.completeUpload bucket key id marks)
  match (← get).world.join? id marks with
  | none => fail (.service invalidPart)
  | some whole =>
    let now ← currentTime
    changeWorld fun w => w.store key whole now

/-- The upload `id` is given up.  That this fails, too, is noted and otherwise changes nothing. -/
def giveUp (bucket key id : String) : Act Unit := do
  match ← attempt (request (.abortUpload bucket key id)) with
  | .ok () => pure ()
  | .error (.service f) =>
    if f.isOf .s3 then
      say .warning .storage
        ("Failed to abort multipart upload " ++ id ++ " for " ++ key ++ ": " ++ f.text)
    else fail (.service f)
  | .error f => fail f

/-- An upload of `content` in parts of `chunk` bytes. -/
def uploadParts (bucket key : String) (chunk : Int) (content : ByteArray) : Act Unit := do
  request (.beginUpload bucket key)
  let (id, world) := (← get).world.begin
  changeWorld fun _ => world
  match ← attempt (sendAll bucket key id chunk content) with
  | .ok () => pure ()
  | .error (.service f) =>
    if f.isOf .s3 then giveUp bucket key id
    fail (.service f)
  | .error f => fail f

/-- An upload of `content` with one call. -/
def uploadWhole (bucket key : String) (content : ByteArray) : Act Unit := do
  request (.putObject bucket key content)
  let now ← currentTime
  changeWorld fun w => w.store key content now

/-- A dump with the `content` stored under `key`, in parts if it is large. -/
def upload (bucket key : String) (content : ByteArray) : Act Unit :=
  guarded .s3 (.upload key) do
    let limits := (← get).world.limits
    if limits.threshold < content.size then uploadParts bucket key limits.chunk content
    else uploadWhole bucket key content

/-- The records on pages, each of which is asked for when its turn comes. -/
def readPages (bucket beginning : String) : Nat → List Objects → Act (List Record)
  | _, [] => pure []
  | number, page :: rest => do
    request (.listPage bucket beginning number)
    let records ← liftM (recordsOf page)
    let more ← readPages bucket beginning (number + 1) rest
    return records ++ more

/-- The stored backups whose keys begin with `beginning`. -/
def list (bucket beginning : String) : Act (List Record) :=
  guarded .s3 (.list beginning) do
    let world := (← get).world
    readPages bucket beginning 1 (pages world.pageSize (world.listing beginning))

/-- The object under `key` removed; a key that holds none is no error. -/
def delete (bucket key : String) : Act Unit :=
  guarded .s3 (.delete key) do
    request (.deleteObject bucket key)
    changeWorld fun w => w.discard key

end DumpKeeper.S3
