import DumpKeeper.Role
import DumpKeeper.Run

/-!
# Asking for the role

Whether a node is backed up can depend on its role, and then the node is asked before every cycle.
The client it is asked with is made when it is needed for the first time; if that fails, it is tried
again the next time.

* `connect` — the client, made if there is none yet.
* `askRole` — the role of the node.
* `shouldBackup` — whether the node is to be backed up now.
* `checkConnection` — whether the node answers at all.
-/

set_option autoImplicit false

namespace DumpKeeper.Replication

/-- The seconds within which a connection must be made. -/
def connectTimeout : Nat := 10

/-- The seconds within which the node must answer. -/
def answerTimeout : Nat := 30

/-- A fault that prevents a client from being made is one of these. -/
def refusesClient : ServiceFault → Bool
  | .redis _ => true
  | .badValue _ => true
  | _ => false

/-- The call that makes a client for `url`, unless the address is refused before. -/
def openClient (url : String) : Act Unit := do
  match (← get).world.checkAddress url with
  | .ok () => request (.openRedis url)
  | .error text => fail (.service (.badValue text))

/-- A client for `url`, made if there is none yet. -/
def connect (url : String) : Act Unit := do
  if (← get).connected then return
  match ← attempt (openClient url) with
  | .ok () => modify fun r => { r with connected := true }
  | .error (.service f) =>
    if refusesClient f then fail (.role (.noClient f)) else fail (.service f)
  | .error f => fail f

/-- The call `c` to the node; its faults are put into the words of `report`. -/
def ask (c : Call) (report : ServiceFault → RoleError) : Act Unit := do
  match ← attempt (request c) with
  | .ok () => pure ()
  | .error (.service f) =>
    if f.isRedis then fail (.role (report f)) else fail (.service f)
  | .error f => fail f

/-- The role of the node at `url`, as it says itself. -/
def askRole (url : String) : Act Role := do
  connect url
  ask .askReplication .noAnswer
  return Role.ofInfo (← get).world.info

/-- What is said about a role under the settings `s`. -/
def sayRole (s : RedisSettings) : Role → Act Unit
  | .primary =>
    say .debug .role ("Redis role is master, backup_master=" ++ truthText s.backupMaster)
  | .secondary =>
    say .debug .role ("Redis role is replica, backup_replica=" ++ truthText s.backupReplica)
  | .unknown => say .warning .role "Could not determine Redis role, defaulting to backup"

/-- Whether the node is to be backed up under the settings `s`.  It is asked for its role only if
that matters. -/
def shouldBackup (s : RedisSettings) : Act Bool := do
  if s.roleMatters then
    let role ← askRole s.connection
    sayRole s role
    return role.selected s.backupMaster s.backupReplica
  else return s.backupMaster

/-- The node at `url` must answer. -/
def checkConnection (url : String) : Act Unit := do
  connect url
  ask .ping .noSign

end DumpKeeper.Replication
