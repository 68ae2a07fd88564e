import DumpKeeper.Config.Settings

/-!
# Faults of services

The object stores, the Redis node and the scheduler belong to others, and a call to any of them can
fail.  Each backend counts on certain kinds of faults and turns them into errors of its own; any
other fault passes through it unchanged.

* `ServiceFault`, `ServiceFault.text` — the kinds of faults, and what they say.
* `ServiceFault.isOf` — whether a backend counts on a fault.
* `ServiceFault.refusesClient` — whether a backend counts on it when its client is made.
-/

set_option autoImplicit false

namespace DumpKeeper

/-- Why a call to a service fails. -/
inductive ServiceFault where
  /-- An S3 store answered an operation with an error. -/
  | rejected (code message : Option String) (operation : String)
  /-- An S3 store could not be talked to. -/
  | unreachable (text : String)
  /-- A GCS store answered with a status. -/
  | status (code : Int) (text : String)
  /-- A GCS store failed in some other way. -/
  | api (text : String)
  /-- A GCS store does not let the program in. -/
  | credentials (text : String)
  /-- The Redis node could not be talked to. -/
  | redis (text : String)
  /-- A value was refused before any service was asked. -/
  | badValue (text : String)
  /-- The system failed. -/
  | system (text : String)
  /-- Something nobody counts on. -/
  | other (text : String)
  deriving DecidableEq, Repr

namespace ServiceFault

/-- What stands for a part of an error that is missing. -/
def unknownPart : String := "Unknown"

/-- What a fault says. -/
def text : ServiceFault → String
  | rejected code message operation =>
    "An error occurred (" ++ code.getD unknownPart ++ ") when calling the " ++ operation ++
      " operation: " ++ message.getD unknownPart
  | status code text => toString code ++ " " ++ text
  | unreachable text => text
  | api text => text
  | credentials text => text
  | redis text => text
  | badValue text => text
  | system text => text
  | other text => text

/-- The status of an answer about an object that is not there. -/
def notFoundStatus : Int := 404

/-- An answer that there is no such object. -/
def isNotFound : ServiceFault → Bool
  | status code _ => code == notFoundStatus
  | _ => false

/-- The faults that a backend counts on. -/
def isOf : BackendKind → ServiceFault → Bool
  | .s3, rejected .. => true
  | .s3, unreachable _ => true
  | .gcs, status .. => true
  | .gcs, api _ => true
  | .gcs, credentials _ => true
  | _, _ => false

/-- The faults that a backend counts on when its client is made. -/
def refusesClient : BackendKind → ServiceFault → Bool
  | .s3, unreachable _ => true
  | .s3, badValue _ => true
  | .gcs, f => f.isOf .gcs
  | _, _ => false

/-- The faults of a Redis node. -/
def isRedis : ServiceFault → Bool
  | redis _ => true
  | _ => false

end ServiceFault

end DumpKeeper
