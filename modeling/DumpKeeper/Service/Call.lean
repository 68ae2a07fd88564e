import DumpKeeper.Endpoint.Answer
import DumpKeeper.Service.Fault

/-!
# Calls

Everything the program asks of others is a call: of the clients of object stores and Redis, of the
timer that runs jobs, and of the server for its counters.

* `Call` — the calls with what they are given.
* `Call.name` — their names, by which a fault can be planned for them.
-/

set_option autoImplicit false

namespace DumpKeeper

/-- A call. -/
inductive Call where
  | openS3 (region endpoint : Value)
  | openGcs (project : Value)
  | putObject (bucket key : String) (body : ByteArray)
  | beginUpload (bucket key : String)
  | uploadPart (bucket key : String) (number : Nat) (id : String) (body : ByteArray)
  | completeUpload (bucket key id : String) (parts : List (Nat × String))
  | abortUpload (bucket key id : String)
  | deleteObject (bucket key : String)
  | listPage (bucket beginning : String) (page : Nat)
  | uploadBlob (bucket key : String) (body : ByteArray)
  | deleteBlob (bucket key : String)
  | listBlobs (bucket beginning : String)
  | openRedis (url : String)
  | askReplication
  | ping
  | makeTimer
  | addJob (id name : String) (interval : Duration) (first : DateTime)
  | startTimer
  | stopTimer
  | wait (seconds : Option Float)
  | tick (result : Bool)
  | makeServer (host : String) (port : Int)
  | stopServer
  | serve (path : String) (answer : Answer)
  deriving Inhabited

/-- The name of a call. -/
def Call.name : Call → String
  | openS3 .. => "s3_client"
  | openGcs .. => "gcs_client"
  | putObject .. => "put_object"
  | beginUpload .. => "create_multipart_upload"
  | uploadPart .. => "upload_part"
  | completeUpload .. => "complete_multipart_upload"
  | abortUpload .. => "abort_multipart_upload"
  | deleteObject .. => "delete_object"
  | listPage .. => "list_objects_v2"
  | uploadBlob .. => "upload_from_string"
  | deleteBlob .. => "blob_delete"
  | listBlobs .. => "list_blobs"
  | openRedis .. => "from_url"
  | askReplication => "info"
  | ping => "ping"
  | makeTimer => "scheduler"
  | addJob .. => "add_job"
  | startTimer => "start"
  | stopTimer => "shutdown"
  | wait .. => "wait"
  | tick .. => "tick"
  | makeServer .. => "make_server"
  | stopServer => "server_shutdown"
  | serve .. => "http"

/-- The name under which a fault can be planned for the next entry of a listing. -/
def nextBlobName : String := "list_blobs_next"

end DumpKeeper
