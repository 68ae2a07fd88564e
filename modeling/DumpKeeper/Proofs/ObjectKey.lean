import DumpKeeper.ObjectKey
import DumpKeeper.Service.Objects

/-!
# Which keys begin with the folder of a node

The keys of a node begin with its name and an underscore, and what follows is a stamp, which has no
underscore.  So the keys of one node begin like those of another one only if the first name begins
with the second one and an underscore.

* `beginsWith_inFolder` — below the same folder only the names count.
* `beginsWith_backupKey?` — the keys of a node begin with its own folder.
* `beginsWith_nodeFolder_iff` — whose keys begin with the folder of a node.
-/

set_option autoImplicit false

namespace DumpKeeper

theorem beginsWith_iff {beginning key : String} :
    beginsWith beginning key = true ↔ beginning.toList <+: key.toList :=
  List.isPrefixOf_iff_prefix

/-- Below the same `folder` only the names `a` and `b` count. -/
theorem beginsWith_inFolder (folder a b : String) :
    beginsWith (inFolder folder a) (inFolder folder b) = beginsWith a b := by
  rw [Bool.eq_iff_iff, inFolder, inFolder]
  split
  · rfl
  · simp only [beginsWith_iff, String.toList_append, List.append_assoc]
    rw [List.prefix_append_right_inj, List.prefix_append_right_inj]

theorem backupKey?_eq_some {folder node key : String} {t : DateTime}
    (h : backupKey? folder node t = some key) :
    ∃ u, t.toUtcSeconds? = some u ∧ key = inFolder folder (node ++ "_" ++ stamp u ++ ".rdb") := by
  rw [backupKey?, Option.map_eq_some_iff] at h
  obtain ⟨u, hu, rfl⟩ := h
  exact ⟨u, hu, rfl⟩

/-- **The keys of `node` begin with its `nodeFolder`.** -/
theorem beginsWith_backupKey? {folder node key : String} {t : DateTime}
    (h : backupKey? folder node t = some key) : beginsWith (nodeFolder folder node) key = true := by
  obtain ⟨u, -, rfl⟩ := backupKey?_eq_some h
  rw [nodeFolder, beginsWith_inFolder, beginsWith_iff, String.append_assoc,
    String.toList_append (t := stamp u ++ ".rdb")]
  exact List.prefix_append _ _

/-! ## Stamps -/

/-- A number has digits only, however it is `padded`. -/
theorem notMem_padded {c : Char} (hc : c.isDigit = false) (width n : Nat) :
    c ∉ (Duration.padded width n).toList := by
  rw [Duration.padded, String.toList_ofList, List.mem_append, not_or]
  refine ⟨fun h => ?_, fun h => ?_⟩
  · rw [List.eq_of_mem_replicate h] at hc
    cases hc
  · rw [Nat.isDigit_of_mem_toDigits (by decide) (by decide) h] at hc
    cases hc

/-- A `stamp` has no underscore. -/
theorem underscore_notMem_stamp (t : DateTime) : '_' ∉ (stamp t).toList := by
  have hdigit : ('_' : Char).isDigit = false := by decide
  simp only [stamp, DateTime.dateText, DateTime.timeText, String.toList_append, List.mem_append,
    not_or]
  simp [notMem_padded hdigit]

/-- **Whose keys begin with the `nodeFolder` of `node`**: its own, and those of nodes whose names
begin with the name of `node` and an underscore. -/
theorem beginsWith_nodeFolder_iff {folder node other key : String} {t : DateTime}
    (h : backupKey? folder other t = some key) :
    beginsWith (nodeFolder folder node) key = true ↔
      node = other ∨ beginsWith (node ++ "_") other = true := by
  obtain ⟨u, -, rfl⟩ := backupKey?_eq_some h
  have hstamp : '_' ∉ (stamp u ++ ".rdb").toList := by
    rw [String.toList_append, List.mem_append, not_or]
    exact ⟨underscore_notMem_stamp u, by decide⟩
  rw [nodeFolder, beginsWith_inFolder, String.append_assoc, beginsWith_iff, beginsWith_iff]
  simp only [String.toList_append] at hstamp ⊢
  have hmark : "_".toList = ['_'] := rfl
  rw [hmark]
  constructor
  · intro hpre
    rcases List.prefix_or_prefix_of_prefix hpre (List.prefix_append _ _) with hle | hge
    · rcases List.prefix_concat_iff.1 hle with heq | hlt
      · exact .inl (String.toList_injective (List.append_cancel_right heq))
      · exact .inr hlt
    · rcases List.prefix_concat_iff.1 hge with heq | ⟨between, hnode⟩
      · exact .inl (String.toList_injective (List.append_cancel_right heq).symm)
      · -- the underscore behind the name of the node would have to be in the stamp
        rw [← hnode, List.append_assoc (_ ++ _), List.prefix_append_right_inj] at hpre
        exact absurd (hpre.subset (List.mem_append_right _ (List.mem_singleton_self _))) hstamp
  · rintro (rfl | hpre)
    · exact List.prefix_append _ _
    · exact (hpre.trans (List.prefix_append _ _)).trans (List.prefix_append _ _)

end DumpKeeper
