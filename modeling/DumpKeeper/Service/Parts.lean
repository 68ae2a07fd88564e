/-!
# Contents in parts

A large content is sent in parts of one size, of which only the last may be shorter.  An empty
content has no parts.

* `partsOf` — the parts of a content.
* `joined` — parts put together.
* `joined_partsOf` — the parts of a content make up the content again.
-/

set_option autoImplicit false

namespace DumpKeeper

/-- The parts of `content` from `place` on, of `size` bytes each but for the last. -/
def partsFrom (size : Nat) (content : ByteArray) (place : Nat) : List ByteArray :=
  if _h : 0 < size ∧ place < content.size then
    content.extract place (place + size) :: partsFrom size content (place + size)
  else []
termination_by content.size - place

/-- The parts of `content`.  There are none of size zero. -/
def partsOf (size : Nat) (content : ByteArray) : List ByteArray := partsFrom size content 0

/-- The `parts` put together in their order. -/
def joined (parts : List ByteArray) : ByteArray := parts.foldl (· ++ ·) .empty

/-- The parts of `content` from `place` on, put behind `before`. -/
theorem foldl_partsFrom (size : Nat) (content : ByteArray) (place : Nat) (before : ByteArray)
    (h : 0 < size) :
    (partsFrom size content place).foldl (· ++ ·) before =
      before ++ content.extract place content.size := by
  fun_induction partsFrom size content place generalizing before with
  | case1 place hp ih =>
    have hle : place ≤ content.size := Nat.le_of_lt hp.2
    rw [List.foldl_cons, ih, ByteArray.append_assoc, ByteArray.extract_append_extract,
      Nat.min_eq_left (Nat.le_add_right place size)]
    congr 1
    apply ByteArray.ext
    simp only [ByteArray.data_extract, Array.extract_eq_extract_right]
    simp only [ByteArray.size_data]
    omega
  | case2 place hp =>
    have hge : content.size ≤ place := by omega
    have he : content.extract place content.size = .empty := by
      apply ByteArray.ext
      simp [Array.extract_empty_of_stop_le_start hge]
    rw [List.foldl_nil, he, ByteArray.append_empty]

/-- The parts of `content` make it up. -/
theorem joined_partsOf (size : Nat) (content : ByteArray) (h : 0 < size) :
    joined (partsOf size content) = content := by
  rw [joined, partsOf, foldl_partsFrom size content 0 _ h, ByteArray.extract_zero_size,
    ByteArray.empty_append]

end DumpKeeper
