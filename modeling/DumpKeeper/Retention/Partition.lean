import DumpKeeper.Clock

/-!
# What to keep and what to delete

A stored backup is kept when it is among the newest ones, as many as are to be kept by count, or
when it is newer than the retention period reaches back.  All others are to be deleted.

* `Record` — a stored backup.
* `newestFirst` — backups in the order in which they are counted; backups of the same time keep the
  order in which they were listed.
* `isKept` — the rule, for a backup at its place in that order.
* `Partition`, `partition` — the ordered backups and the places of those to keep.
-/

set_option autoImplicit false

namespace DumpKeeper

/-- A stored backup. -/
structure Record where
  key : String
  time : DateTime
  size : Int
  deriving DecidableEq, Repr, Inhabited

/-- Whether `a` is to stand before `b`, or either may stand first. -/
def noOlder (a b : Record) : Bool :=
  b.time.utcWall ≤ a.time.utcWall

/-- The `records` from the newest to the oldest. -/
def newestFirst (records : List Record) : List Record :=
  records.mergeSort noOlder

/-- The rule for a backup at place `i`, counted from zero at the newest: one of the first
`keepLast`, or newer than the cutoff. -/
def isKept (keepLast : Int) (cutoff : Option DateTime) (i : Nat) (r : Record) : Bool :=
  (i : Int) < keepLast ||
    match cutoff with
    | some c => c.utcWall < r.time.utcWall
    | none => false

/-- Backups, newest first, and the places of those to keep. -/
structure Partition where
  records : List Record
  keep : List Nat
  deriving DecidableEq, Repr, Inhabited

namespace Partition

/-- The places of the backups that the partition `p` deletes. -/
def delete (p : Partition) : List Nat :=
  (List.range p.records.length).filter fun i => !p.keep.contains i

/-- The backups of `p` at some `places`. -/
def select (p : Partition) (places : List Nat) : List Record :=
  places.filterMap fun i => p.records[i]?

/-- The backups that the partition `p` keeps. -/
def kept (p : Partition) : List Record := p.select p.keep

/-- The backups that the partition `p` deletes. -/
def toDelete (p : Partition) : List Record := p.select p.delete

end Partition

/-- The places of the backups in `ordered` that the rule `isKept` keeps. -/
def keptPlaces (keepLast : Int) (cutoff : Option DateTime) (ordered : List Record) : List Nat :=
  (ordered.zipIdx.filter fun e => isKept keepLast cutoff e.2 e.1).map (·.2)

/-- The partition of `records` by the rule `isKept`. -/
def partitionAt (records : List Record) (keepLast : Int) (cutoff : Option DateTime) : Partition :=
  let ordered := newestFirst records
  ⟨ordered, keptPlaces keepLast cutoff ordered⟩

/-- The time that kept backups are newer than, `keepDuration` before `now`; a period of no length is
none. -/
def cutoffOf (keepDuration : Option Duration) (now : DateTime) :
    Except TimeFault (Option DateTime) :=
  match keepDuration.filter fun d => !d.isZero with
  | some d => (now.before d).map some
  | none => .ok none

/-- Why backups cannot be told apart. -/
inductive PartitionFault where
  /-- Some of the times are UTC times, and some are of clocks of unknown offset. -/
  | mixedClocks
  | time (f : TimeFault)
  deriving DecidableEq, Repr

/-- Whether all of the points in time `ts` have a known offset, or none has. -/
def comparable (ts : List DateTime) : Bool :=
  ts.all (·.offset.isSome) || ts.all (·.offset.isNone)

/-- The partition of `records` under a policy at the time `now`. -/
def partition (records : List Record) (keepLast : Int) (keepDuration : Option Duration)
    (now : DateTime) : Except PartitionFault Partition := do
  let times := records.map (·.time)
  if !comparable times then throw .mixedClocks
  let cutoff ← (cutoffOf keepDuration now).mapError .time
  if cutoff.isSome && !records.isEmpty && !comparable (now :: times) then throw .mixedClocks
  return partitionAt records keepLast cutoff

end DumpKeeper
