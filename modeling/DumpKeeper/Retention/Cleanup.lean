import DumpKeeper.Retention.Partition
import DumpKeeper.Storage

/-!
# Deleting old backups

After a backup was stored, the backups of the node are listed and those that need not be kept are
deleted, the newest first.  A backup that cannot be deleted does not keep the others from being
deleted.

* `partitionNow` — the backups under a text, parted by the policy at the time of the clock.
* `deleteOne`, `deleteAll` — the deletion of one backup and of several.
* `cleanup` — all of it; the answer is how many backups were deleted.
-/

set_option autoImplicit false

namespace DumpKeeper

/-- The failure of a partition. -/
def Failure.ofPartition : PartitionFault → Failure
  | .mixedClocks => .mixedClocks
  | .time f => .time f

/-- The backups in the store `s` whose keys begin with `beginning`, parted by the `policy` at the
time of the clock. -/
def partitionNow (s : Store) (policy : RetentionSettings) (beginning : String) : Act Partition := do
  let records ← s.list beginning
  let now ← currentTime
  liftM ((partition records policy.keepLast policy.keepDuration now).mapError Failure.ofPartition)

/-- The backup under `key` deleted; the answer is whether that worked. -/
def deleteOne (s : Store) (key : String) : Act Bool := do
  say .info .retention ("Deleting old backup: " ++ key)
  count .deletes
  match ← attempt (s.delete key) with
  | .ok () =>
    count .deleted
    return true
  | .error (.storage e) =>
    say .error .retention
      ("Failed to delete backup " ++ key ++ " from " ++ e.backend.name ++ ": " ++ e.message)
    count .deleteFailures
    return false
  | .error f => fail f

/-- Backups deleted from the store `s` one after the other; the answer is how many were. -/
def deleteAll (s : Store) : List Record → Act Nat
  | [] => pure 0
  | r :: rest => do
    let done ← deleteOne s r.key
    let more ← deleteAll s rest
    return (if done then 1 else 0) + more

/-- The old backups whose keys begin with `beginning` deleted under the `policy`; the answer is how
many were. -/
def cleanup (s : Store) (policy : RetentionSettings) (beginning : String) : Act Nat := do
  count .cleanups
  let plan ← partitionNow s policy beginning
  say .debug .retention
    ("Retention for " ++ beginning ++ ": " ++ toString plan.records.length ++ " backups, " ++
      "keeping " ++ toString plan.keep.length ++ ", deleting " ++ toString plan.delete.length)
  let deleted ← deleteAll s plan.toDelete
  if deleted ≠ 0 then
    say .info .retention ("Deleted " ++ toString deleted ++ " old backups under " ++ beginning)
  return deleted

end DumpKeeper
