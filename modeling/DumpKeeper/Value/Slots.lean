import DumpKeeper.Value

/-!
# The order of a set

A set keeps its members in slots, and shows them in the order of the slots.  There are twice as many
slots as members at least.  A number goes into the slot that its residue names; when that one and
those right behind it are taken, a rule names further slots, until one is free.  Sets with other
members than numbers have no order of their own and show their members as they were written.

* `residue?` — the residue of a number.
* `freeSlot` — the slot of a new member.
* `inSlotOrder` — the members of a set in their order.
-/

set_option autoImplicit false

namespace DumpKeeper.Value

/-- The bits of a residue. -/
def residueBits : Nat := 61

/-- Residues are taken modulo this prime. -/
def residueModulus : Nat := Nat.pow 2 residueBits - 1

/-- The residue of an infinite number. -/
def residueOfInfinity : Nat := 314159

/-- The residue of the absolute value of a number, and whether the number is negative.  Dividing by
two moves the bits of a residue round by one, so that an exponent counts modulo `residueBits`. -/
def residueOfAbs? (v : Value) : Option (Nat × Bool) :=
  match v, v.asInt? with
  | _, some n => some (n.natAbs % residueModulus, n < 0)
  | .float x, none =>
    if x.isFinite then
      let p := Binary64.parts x
      some (p.mantissa * Nat.pow 2 (p.exponent % residueBits).toNat % residueModulus, p.negative)
    else if x.isNaN then none
    else some (residueOfInfinity, x < 0)
  | _, none => none

/-- The residue of a number as a word of 64 bits.  No number has the residue minus one. -/
def residue? (v : Value) : Option Nat :=
  (residueOfAbs? v).map fun (n, negative) =>
    if !negative || n = 0 then n
    else Nat.pow 2 64 - (if n = 1 then 2 else n)

/-- The slots right behind a slot that are tried with it, if there are that many. -/
def neighbours : Nat := 9

/-- The bits of a residue that count for the next slot no more. -/
def spentBits : Nat := 5

/-- The first free slot of `count` slots, from slot `slot` on; `high` are the bits of the residue
that are left.  The first argument bounds the rounds. -/
def freeSlot (taken : List Nat) (count : Nat) : Nat → Nat → Nat → Nat
  | 0, slot, _ => slot
  | fuel + 1, slot, high =>
    let near := if slot + neighbours < count then neighbours else 0
    match (List.range' slot (near + 1)).find? fun s => !taken.contains s with
    | some s => s
    | none =>
      let high := high / Nat.pow 2 spentBits
      freeSlot taken count fuel ((slot * 5 + 1 + high) % count) high

/-- The number of slots for so many `members`. -/
def slotCount (members : Nat) : Nat :=
  if members < 5 then 8 else Nat.pow 2 ((2 * members).log2 + 1)

/-- The `members` of a set in their order. -/
def inSlotOrder (members : List Value) : List Value :=
  match members.mapM residue? with
  | none => members
  | some residues =>
    let count := slotCount members.length
    let slots := residues.foldl (fun taken r =>
      taken ++ [freeSlot taken count (count + 64 / spentBits + 1) (r % count) r]) []
    ((slots.zip members).mergeSort fun a b => a.1 ≤ b.1).map (·.2)

end DumpKeeper.Value
