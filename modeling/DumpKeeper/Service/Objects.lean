import DumpKeeper.DateTime

/-!
# Stored objects

A bucket holds objects under keys, in the order in which the keys first came.  Storing under a key
that is there already replaces the object and keeps its place.

* `StoredObject` — an object with its content, and with size and time as the store reports them.
* `Objects` — the objects of a bucket.
* `Objects.get?`, `Objects.put`, `Objects.erase`, `Objects.below` — look up, store, remove, and the
  objects whose keys begin with a text.
* `Arrangement` — an order in which a store lists objects, which need not be that of the bucket.
* `pages` — a listing in pages of a given size.
-/

set_option autoImplicit false

namespace DumpKeeper

/-- An object.  A store may not report a size or a time. -/
structure StoredObject where
  key : String
  content : ByteArray
  size : Option Int
  time : Option DateTime
  deriving Inhabited

/-- The objects of a bucket, in order. -/
abbrev Objects := List StoredObject

/-- Whether `key` begins with the text `beginning`. -/
def beginsWith (beginning key : String) : Bool :=
  beginning.toList.isPrefixOf key.toList

namespace Objects

/-- The object under `key`. -/
def get? (os : Objects) (key : String) : Option StoredObject :=
  os.find? (·.key == key)

/-- The object `o` stored under its key: in the place of the one that has the key, else at the
end. -/
def put (o : StoredObject) : Objects → Objects
  | [] => [o]
  | p :: rest => if p.key == o.key then o :: rest else p :: put o rest

/-- The objects `os` without that under `key`. -/
def erase (os : Objects) (key : String) : Objects :=
  os.filter (·.key != key)

/-- Those of the objects `os` whose keys begin with `beginning`. -/
def below (os : Objects) (beginning : String) : Objects :=
  os.filter fun o => beginsWith beginning o.key

/-- The stored object `o` is found under its key. -/
theorem get?_put_self (os : Objects) (o : StoredObject) : get? (put o os) o.key = some o := by
  induction os with
  | nil => simp [put, get?]
  | cons p rest ih =>
    simp only [put]
    split
    · simp [get?]
    · rename_i h
      simp only [get?, List.find?_cons]
      rw [Bool.not_eq_true] at h
      rw [h]
      exact ih

/-- Storing the object `o` changes nothing under other keys. -/
theorem get?_put_of_ne (os : Objects) (o : StoredObject) (key : String) (h : o.key ≠ key) :
    get? (put o os) key = get? os key := by
  induction os with
  | nil => simp [put, get?, h]
  | cons p rest ih =>
    simp only [put]
    split
    · rename_i hp
      have hp : p.key = o.key := by simpa using hp
      simp [get?, hp, h]
    · simp only [get?, List.find?_cons] at ih ⊢
      rw [ih]

/-- Storing adds a key only at the end, and only if it is new. -/
theorem keys_put (os : Objects) (o : StoredObject) :
    (put o os).map (·.key) =
      if (get? os o.key).isSome then os.map (·.key) else os.map (·.key) ++ [o.key] := by
  induction os with
  | nil => simp [put, get?]
  | cons p rest ih =>
    simp only [put]
    split
    · rename_i hp
      have hp' : p.key = o.key := by simpa using hp
      simp [get?, hp']
    · rename_i hp
      rw [Bool.not_eq_true] at hp
      have hg : get? (p :: rest) o.key = get? rest o.key := by simp [get?, hp]
      rw [List.map_cons, ih, hg, List.map_cons]
      split <;> rfl

end Objects

/-- An order in which a store lists objects: every object of `os` is listed in `arranged os`, none
of them twice, and which of two comes first does not depend on what else is there.  Beyond that the
order is up to the store. -/
structure Arrangement where
  arranged : Objects → Objects
  perm : ∀ os, (arranged os).Perm os
  filter : ∀ (p : StoredObject → Bool) os, arranged (os.filter p) = (arranged os).filter p

/-- The order of the bucket itself, in which the keys first came. -/
def Arrangement.byArrival : Arrangement := ⟨id, .refl, fun _ _ => rfl⟩

instance : Inhabited Arrangement := ⟨.byArrival⟩

/-- The list `items` cut into pages of `size`; the last page may be shorter. -/
def pages {α : Type} (size : Nat) (items : List α) : List (List α) :=
  match _h : items.drop size with
  | [] => [items]
  | a :: rest => if size = 0 then [items] else items.take size :: pages size (a :: rest)
termination_by items.length
decreasing_by
  have := congrArg List.length _h
  simp only [List.length_drop, List.length_cons] at this ⊢
  omega

/-- The pages hold all `items`, in order. -/
theorem flatten_pages {α : Type} (size : Nat) (items : List α) :
    (pages size items).flatten = items := by
  fun_induction pages size items with
  | case1 => simp
  | case2 => simp
  | case3 items a rest h _ ih =>
    rw [List.flatten_cons, ih, ← h, List.take_append_drop]

end DumpKeeper
