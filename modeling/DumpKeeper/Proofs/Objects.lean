import DumpKeeper.Service.Objects
import Mathlib.Data.List.Nodup
import Mathlib.Data.List.TakeWhile

/-!
# The objects of a bucket

A bucket has at most one object to a key.  Storing under a key replaces what is there in its place,
and puts what is new at the end; so `put` is described by where the object ends up
(`Objects.put_split`), and everything else about it follows from that.

* `Objects.Distinct` says that no key has two objects.
* `Objects.outside` are the objects whose keys do not begin with a text, those that
  `Objects.below` leaves out.
* `Objects.without` removes the objects of several keys at once.
-/

set_option autoImplicit false

namespace DumpKeeper
namespace Objects

/-- No two of the objects `os` have the same key. -/
def Distinct (os : Objects) : Prop := (os.map (·.key)).Nodup

/-- Those of the objects `os` whose keys do not begin with `beginning`. -/
def outside (os : Objects) (beginning : String) : Objects :=
  os.filter fun o => !beginsWith beginning o.key

/-- The objects `os` without those under `keys`. -/
def without (os : Objects) (keys : List String) : Objects :=
  os.filter fun o => !keys.contains o.key

variable {os : Objects} {o : StoredObject} {beginning : String}

/-! ## Keys -/

theorem distinct_nil : Distinct [] := List.nodup_nil

theorem distinct_singleton (o : StoredObject) : Distinct [o] := List.nodup_singleton _

theorem Distinct.sublist {ps : Objects} (h : os.Distinct) (hs : ps.Sublist os) : Distinct ps :=
  List.Nodup.sublist (hs.map _) h

/-- With keys that are `Distinct`, objects of the same key are the same. -/
theorem Distinct.eq_of_key (h : os.Distinct) {p : StoredObject} (ho : o ∈ os) (hp : p ∈ os)
    (hk : o.key = p.key) : o = p :=
  List.inj_on_of_nodup_map h ho hp hk

/-- With keys that are `Distinct`, the object `o` stands behind all that is listed before its
key. -/
theorem Distinct.eq_takeWhile_append (h : os.Distinct) (ho : o ∈ os) :
    ∃ behind, os = os.takeWhile (fun p => p.key != o.key) ++ o :: behind := by
  induction os with
  | nil => cases ho
  | cons p rest ih =>
    by_cases hp : p.key = o.key
    · obtain rfl := h.eq_of_key List.mem_cons_self ho hp
      exact ⟨rest, by rw [List.takeWhile_cons_of_neg (by simp), List.nil_append]⟩
    · have hrest : o ∈ rest := by
        rcases List.mem_cons.1 ho with rfl | hrest
        · exact absurd rfl hp
        · exact hrest
      obtain ⟨behind, heq⟩ := ih (h.sublist (List.sublist_cons_self p rest)) hrest
      refine ⟨behind, ?_⟩
      rw [List.takeWhile_cons_of_pos (by simpa using hp), List.cons_append, ← heq]

theorem get?_eq_some (h : os.Distinct) (ho : o ∈ os) : get? os o.key = some o := by
  have hs : (get? os o.key).isSome := by
    rw [get?, List.find?_isSome]
    exact ⟨o, ho, beq_self_eq_true o.key⟩
  obtain ⟨p, hp⟩ := Option.isSome_iff_exists.1 hs
  have hk : p.key = o.key := by simpa using List.find?_some hp
  rw [hp, h.eq_of_key ho (List.mem_of_find?_eq_some hp) hk.symm]

theorem mem_outside :
    o ∈ os.outside beginning ↔ o ∈ os ∧ beginsWith beginning o.key = false := by
  rw [outside, List.mem_filter, Bool.not_eq_true']

/-! ## Storing -/

/-- **Where a stored object ends up.**  No object before `o` has its key, and behind it are the
objects that were behind the one it replaces, or none if its key is new. -/
theorem put_split (os : Objects) (o : StoredObject) :
    ∃ before behind, put o os = before ++ o :: behind ∧ (∀ p ∈ before, p.key ≠ o.key) ∧
      ((os = before ∧ behind = []) ∨ ∃ p, p.key = o.key ∧ os = before ++ p :: behind) := by
  induction os with
  | nil => exact ⟨[], [], rfl, by simp, .inl ⟨rfl, rfl⟩⟩
  | cons p rest ih =>
    rw [put]
    by_cases hp : p.key = o.key
    · rw [if_pos (by simpa using hp)]
      exact ⟨[], rest, rfl, by simp, .inr ⟨p, hp, rfl⟩⟩
    · rw [if_neg (by simpa using hp)]
      obtain ⟨before, behind, heq, hne, hos⟩ := ih
      refine ⟨p :: before, behind, by rw [heq]; rfl, ?_, ?_⟩
      · rintro q (_ | ⟨_, hq⟩)
        · exact hp
        · exact hne q hq
      · rcases hos with ⟨rfl, rfl⟩ | ⟨q, hq, rfl⟩
        · exact .inl ⟨rfl, rfl⟩
        · exact .inr ⟨q, hq, rfl⟩

theorem mem_put_self (os : Objects) (o : StoredObject) : o ∈ put o os := by
  obtain ⟨before, behind, heq, -⟩ := put_split os o
  rw [heq]
  exact List.mem_append_right before List.mem_cons_self

/-- To `put o` adds nothing but `o`. -/
theorem mem_put {p : StoredObject} (h : p ∈ put o os) : p = o ∨ p ∈ os := by
  obtain ⟨before, behind, heq, -, hos⟩ := put_split os o
  rw [heq, List.mem_append, List.mem_cons] at h
  rcases hos with ⟨rfl, rfl⟩ | ⟨q, -, rfl⟩
  · rcases h with h | h | h
    · exact .inr h
    · exact .inl h
    · cases h
  · rcases h with h | h | h
    · exact .inr (List.mem_append_left _ h)
    · exact .inl h
    · exact .inr (List.mem_append_right _ (List.mem_cons_of_mem _ h))

/-- To `put o` replaces nothing of another key. -/
theorem mem_put_of_ne {p : StoredObject} (hp : p ∈ os) (hk : p.key ≠ o.key) : p ∈ put o os := by
  obtain ⟨before, behind, heq, -, hos⟩ := put_split os o
  rw [heq, List.mem_append, List.mem_cons]
  rcases hos with ⟨rfl, -⟩ | ⟨q, hq, rfl⟩
  · exact .inl hp
  · rcases List.mem_append.1 hp with hp | hp
    · exact .inl hp
    rcases List.mem_cons.1 hp with rfl | hp
    · exact absurd hq hk
    · exact .inr (.inr hp)

/-- To `put o` keeps keys distinct. -/
theorem Distinct.put (h : os.Distinct) (o : StoredObject) : Distinct (put o os) := by
  rw [Distinct, keys_put]
  split
  · exact h
  · rename_i hg
    refine List.nodup_append.2 ⟨h, by simp, ?_⟩
    intro key hkey key' hkey' he
    obtain ⟨p, hp, rfl⟩ := List.mem_map.1 hkey
    rw [List.mem_singleton] at hkey'
    exact hg (by rw [← hkey', ← he, get?_eq_some h hp]; rfl)

/-- To `put o` where the key of `o` begins with `beginning` is to put it among the objects below
that. -/
theorem below_put (os : Objects) (h : beginsWith beginning o.key = true) :
    below (put o os) beginning = put o (below os beginning) := by
  induction os with
  | nil => simp [put, below, h]
  | cons p rest ih =>
    rw [below] at ih ⊢
    by_cases hp : p.key = o.key
    · have hb : beginsWith beginning p.key = true := by rw [hp]; exact h
      simp [put, below, hp, h]
    · rw [put, if_neg (by simpa using hp), List.filter_cons, ih, below, below, List.filter_cons]
      split
      · rw [put, if_neg (by simpa using hp)]
      · rfl

/-- To `put o` where the key of `o` begins with `beginning` changes nothing outside it. -/
theorem outside_put (os : Objects) (h : beginsWith beginning o.key = true) :
    outside (put o os) beginning = outside os beginning := by
  induction os with
  | nil => simp [put, outside, h]
  | cons p rest ih =>
    by_cases hp : p.key = o.key
    · simp [put, outside, hp, h]
    · rw [put, if_neg (by simpa using hp), outside, List.filter_cons]
      rw [outside] at ih
      rw [ih, outside, outside, List.filter_cons]

/-- Apart from the order, `put o os` is `o` and all of `os` with other keys. -/
theorem put_perm (h : os.Distinct) (o : StoredObject) :
    (put o os).Perm (o :: os.filter fun p => p.key != o.key) := by
  obtain ⟨before, behind, heq, hne, hos⟩ := put_split os o
  rw [heq]
  refine List.perm_middle.trans (List.Perm.cons o (List.Perm.of_eq ?_))
  have hb : before.filter (fun p => p.key != o.key) = before :=
    List.filter_eq_self.2 fun p hp => by simpa using hne p hp
  rcases hos with ⟨rfl, rfl⟩ | ⟨q, hq, rfl⟩
  · rw [hb, List.append_nil]
  · have hq' : behind.filter (fun p => p.key != o.key) = behind := by
      refine List.filter_eq_self.2 fun p hp => ?_
      rw [Distinct, List.map_append, List.map_cons, List.nodup_append] at h
      have hnot := (List.nodup_cons.1 h.2.1).1
      simp only [bne_iff_ne, ne_eq]
      intro hk
      exact hnot (List.mem_map.2 ⟨p, hp, by rw [hk, hq]⟩)
    rw [List.filter_append, List.filter_cons, hb, hq', if_neg (by simpa using hq)]

/-! ## Removing -/

theorem mem_without {keys : List String} : o ∈ os.without keys ↔ o ∈ os ∧ o.key ∉ keys := by
  simp [without, List.mem_filter]

@[simp] theorem without_nil (os : Objects) : os.without [] = os := by
  simp [without]

theorem without_append (os : Objects) (keys keys' : List String) :
    os.without (keys ++ keys') = (os.without keys).without keys' := by
  simp only [without, List.filter_filter, List.contains_append, Bool.not_or]
  congr 1
  funext o
  exact Bool.and_comm _ _

theorem erase_eq_without (os : Objects) (key : String) : os.erase key = os.without [key] := by
  refine List.filter_congr fun o _ => ?_
  simp [bne, Bool.beq_eq_decide_eq]

/-- Where no object has the `key`, nothing is removed under it. -/
theorem erase_of_get?_eq_none {key : String} (h : get? os key = none) : os.erase key = os := by
  rw [get?, List.find?_eq_none] at h
  exact List.filter_eq_self.2 fun o ho => by simpa [bne] using h o ho

theorem below_without (os : Objects) (keys : List String) (beginning : String) :
    (os.without keys).below beginning = (os.below beginning).without keys := by
  simp only [without, below, List.filter_filter, Bool.and_comm]

/-- Removing `keys` that begin with `beginning` changes nothing outside it. -/
theorem outside_without {keys : List String} (h : ∀ key ∈ keys, beginsWith beginning key = true) :
    (os.without keys).outside beginning = os.outside beginning := by
  rw [without, outside, List.filter_filter, outside]
  refine List.filter_congr fun o _ => ?_
  by_cases ho : o.key ∈ keys
  · simp [h o.key ho]
  · simp [ho]

theorem get?_without_of_mem {keys : List String} {key : String} (h : key ∈ keys) :
    get? (os.without keys) key = none := by
  rw [get?, List.find?_eq_none]
  intro o ho hk
  rw [beq_iff_eq] at hk
  exact (mem_without.1 ho).2 (hk ▸ h)

theorem get?_without_of_notMem {keys : List String} {key : String} (h : key ∉ keys) :
    get? (os.without keys) key = get? os key := by
  rw [get?, get?, without, List.find?_filter]
  congr 1
  funext o
  by_cases ho : o.key = key
  · simp [ho, h]
  · simp [ho]

end Objects
end DumpKeeper
