import DumpKeeper.Logging
import DumpKeeper.Proofs.Parallel
import DumpKeeper.World

/-!
# Trees that differ at one place

Two file trees may have files of different contents at one place, and be the same everywhere else.
Only who reads that very file can tell them apart: every other path leads to the same in both, and
whatever is done to both leaves trees that differ at that place at most.

* `FileTree.AgreesOff place t u` — the trees agree but for the content of a file at the place.
* `FilePath.leadsTo` — the place that a path leads to, if it leads anywhere
  (`FileTree.eq_of_walk`).
* `FileTree.AgreesOff.ask_eq`, `FileTree.AgreesOff.isThere` — what cannot be told apart.
* `FileTree.AgreesOff.put`, `FileTree.AgreesOff.openAt` and their companions — what is done to both.
-/

set_option autoImplicit false

namespace DumpKeeper

/-- An entry without its content. -/
def FileEntry.blank : FileEntry → FileEntry
  | .folder => .folder
  | .file _ _ => .file .empty ⟨0, 0⟩

/-- The place at which the path `p` ends, each part taken as it stands, from the folder `cwd` if it
has no root. -/
def FilePath.leadsTo (cwd : List String) (p : FilePath) : List String :=
  p.parts.foldl (fun place name => if name = ".." then place.dropLast else place ++ [name])
    (if p.root.isEmpty then cwd else [])

namespace FileTree

/-- The trees `t` and `u` agree but for the content of a file at `place`. -/
structure AgreesOff (place : List String) (t u : FileTree) : Prop where
  /-- They have the same working folder. -/
  cwd : t.cwd = u.cwd
  /-- It goes by the same name. -/
  cwdName : t.cwdName = u.cwdName
  /-- The system refuses the same. -/
  refusals : t.refusals = u.refusals
  /-- Nothing is different anywhere else. -/
  elsewhere : ∀ q, q ≠ place → t.at? q = u.at? q
  /-- At the place there is a file in both, or the same. -/
  kind : (t.at? place).map FileEntry.blank = (u.at? place).map FileEntry.blank

variable {place q : List String} {t u : FileTree} {p : FilePath}

/-! ## Entries -/

theorem lookup_filter {β : Type} (P : List String → Bool) (entries : List (List String × β)) :
    (entries.filter fun e => P e.1).lookup q = if P q then entries.lookup q else none := by
  induction entries with
  | nil => simp
  | cons e rest ih =>
    obtain ⟨key, value⟩ := e
    by_cases hq : q = key
    · subst hq
      by_cases hP : P q = true
      · simp [hP]
      · simp [hP, ih]
    · have hne : (q == key) = false := beq_false_of_ne hq
      by_cases hP : P key = true
      · simp [hP, List.lookup_cons, hne, ih]
      · simp [hP, List.lookup_cons, hne, ih]

theorem at?_put (t : FileTree) (place q : List String) (e : FileEntry) :
    (t.put place e).at? q =
      if q.isPrefixOf t.cwd then some .folder else if q = place then some e else t.at? q := by
  by_cases hcwd : q.isPrefixOf t.cwd
  · simp [at?, put, hcwd]
  · by_cases hq : q = place
    · simp [at?, put, hq]
    · have hlookup := lookup_filter (q := q) (fun p => p != place) t.entries
      simp only [at?, put, hcwd, Bool.false_eq_true, if_false, List.lookup_cons,
        beq_false_of_ne hq, hq, hlookup]
      simp [hq]

theorem at?_remove (t : FileTree) (p : FilePath) (q : List String) :
    (t.remove p).at? q =
      if q.isPrefixOf t.cwd then some .folder
      else if (FilePath.absolute t.cwd p).isPrefixOf q then none else t.at? q := by
  by_cases hcwd : q.isPrefixOf t.cwd
  · simp [at?, remove, hcwd]
  · have hlookup := lookup_filter (q := q)
      (fun e => !(FilePath.absolute t.cwd p).isPrefixOf e) t.entries
    simp only [at?, remove, hcwd, Bool.false_eq_true, if_false, hlookup]
    by_cases hq : (FilePath.absolute t.cwd p).isPrefixOf q <;> simp [hq]

/-! ## The working folder -/

theorem cwd_makeFolders (t : FileTree) (p : FilePath) : (t.makeFolders p).cwd = t.cwd := by
  rw [makeFolders]
  generalize FilePath.absolute t.cwd p = parts
  dsimp only
  induction List.range parts.length generalizing t with
  | nil => rfl
  | cons n rest ih =>
    rw [List.foldl_cons, ih]
    split <;> rfl

theorem cwd_write (t : FileTree) (p : FilePath) (content : ByteArray) (changed : FileTime) :
    (t.write p content changed).cwd = t.cwd := t.cwd_makeFolders _

theorem cwd_openAt {opened : FileTree} (h : t.openAt q = .ok opened) : opened.cwd = t.cwd := by
  rw [openAt] at h
  split at h
  · cases h
  split at h
  · cases h
    rfl
  · cases h
  · split at h
    · cases h
      rfl
    · cases h
  · cases h

namespace AgreesOff

theorem refl (place : List String) (t : FileTree) : t.AgreesOff place t :=
  ⟨rfl, rfl, rfl, fun _ _ => rfl, rfl⟩

/-- Wherever there is something in one tree, there is something of the same kind in the other: they
are the same when `blank`. -/
theorem blank (h : t.AgreesOff place u) (q : List String) :
    (t.at? q).map FileEntry.blank = (u.at? q).map FileEntry.blank := by
  by_cases hq : q = place
  · exact hq ▸ h.kind
  · rw [h.elsewhere q hq]

theorem isSome (h : t.AgreesOff place u) (q : List String) :
    (t.at? q).isSome = (u.at? q).isSome := by
  rw [← Option.isSome_map (f := FileEntry.blank), h.blank, Option.isSome_map]

/-! ## Paths -/

/-- What a path leads to in both trees, `a` and `b`: the same place, and the same there unless it is
`place`, at which the trees differ. -/
structure Found (place : List String) (a b : List String × FileEntry) : Prop where
  end_eq : a.1 = b.1
  blank : a.2.blank = b.2.blank
  entry : a.1 ≠ place → a.2 = b.2

/-- **A path leads to the same place in both trees**, and it finds the same there, by `Found`. -/
theorem walk (h : t.AgreesOff place u) (parts : List String) (q : List String) :
    Agree (Found place) (t.walk q parts) (u.walk q parts) := by
  -- what lies on the way must be a folder, and folders are the same in both trees
  induction parts generalizing q with
  | nil =>
    have hb := h.blank q
    rw [FileTree.walk, FileTree.walk]
    rcases ht : t.at? q with _ | e
    · rcases hu : u.at? q with _ | e'
      · exact .error _
      · rw [ht, hu] at hb
        cases hb
    · rcases hu : u.at? q with _ | e'
      · rw [ht, hu] at hb
        cases hb
      · rw [ht, hu] at hb
        refine .ok ⟨rfl, Option.some.inj hb, fun hq => ?_⟩
        exact Option.some.inj (ht.symm.trans ((h.elsewhere q hq).trans hu))
  | cons name rest ih =>
    have hb := h.blank q
    rw [FileTree.walk, FileTree.walk]
    rcases ht : t.at? q with _ | _ | _ <;> rcases hu : u.at? q with _ | _ | _ <;>
      rw [ht, hu] at hb <;> try cases hb
    · exact .error _
    · dsimp only
      split
      · exact ih _
      · split
        · exact .error _
        · exact ih _
    · exact .error _

/-- A path that leads anywhere, by `walk`, leads to the place at which its `parts` end. -/
theorem leads_of_walk {parts : List String} {e : List String × FileEntry}
    (h : t.walk q parts = .ok e) :
    e.1 = parts.foldl (fun place name => if name = ".." then place.dropLast else place ++ [name])
      q := by
  induction parts generalizing q with
  | nil =>
    rw [FileTree.walk] at h
    split at h
    · cases h
      rfl
    · cases h
  | cons name rest ih =>
    rw [FileTree.walk] at h
    split at h
    · cases h
    · cases h
    · rw [List.foldl_cons]
      split at h
      · rename_i hname
        rw [if_pos hname]
        exact ih h
      · rename_i hname
        rw [if_neg hname]
        split at h
        · cases h
        · exact ih h

theorem find (h : t.AgreesOff place u) (p : FilePath) :
    Agree (fun e e' => e.blank = e'.blank ∧ (p.leadsTo t.cwd ≠ place → e = e')) (t.find p)
      (u.find p) := by
  rw [FileTree.find, FileTree.find, ← h.cwd]
  split
  · exact .error _
  split
  · exact .error _
  have hwalk := h.walk p.parts (if p.root.isEmpty then t.cwd else [])
  rcases ht : t.walk (if p.root.isEmpty then t.cwd else []) p.parts with f | e
  · rw [ht] at hwalk
    rw [hwalk.eq_error]
    exact .error f
  · have hend := leads_of_walk ht
    rw [ht] at hwalk
    obtain ⟨e', hu, hfound⟩ := hwalk.exists_ok
    rw [hu]
    exact .ok ⟨hfound.blank, fun hp => hfound.entry fun he => hp (hend.symm.trans he)⟩

theorem ask (h : t.AgreesOff place u) (c : FileCall) (p : FilePath) :
    Agree (fun e e' => e.blank = e'.blank ∧ (p.leadsTo t.cwd ≠ place → e = e')) (t.ask c p)
      (u.ask c p) := by
  rw [FileTree.ask, FileTree.ask, h.refusals]
  split
  · exact .error _
  · exact h.find p

/-- **Only a path to `place` itself can tell the trees apart.** -/
theorem ask_eq (h : t.AgreesOff place u) (c : FileCall) (hp : p.leadsTo t.cwd ≠ place) :
    t.ask c p = u.ask c p :=
  ((h.ask c p).mono fun _ _ he => he.2 hp).eq

/-- What `isThere` says cannot tell them apart at all. -/
theorem isThere (h : t.AgreesOff place u) (p : FilePath) : t.isThere p = u.isThere p := by
  have hask := h.ask .look p
  rw [FileTree.isThere, FileTree.isThere]
  rcases ht : t.ask .look p with f | e
  · rw [ht] at hask
    rw [hask.eq_error]
  · rw [ht] at hask
    obtain ⟨e', hu, -⟩ := hask.exists_ok
    rw [hu]

theorem fullText (h : t.AgreesOff place u) (p : FilePath) : t.fullText p = u.fullText p := by
  rw [FileTree.fullText, FileTree.fullText, h.cwd, h.cwdName]

/-! ## Changes -/

theorem put (h : t.AgreesOff place u) (q : List String) (e : FileEntry) :
    (t.put q e).AgreesOff place (u.put q e) := by
  refine ⟨h.cwd, h.cwdName, h.refusals, fun p hp => ?_, ?_⟩
  · rw [at?_put, at?_put, h.cwd, h.elsewhere p hp]
  · rw [at?_put, at?_put, h.cwd]
    split
    · rfl
    split
    · rfl
    · exact h.kind

theorem remove (h : t.AgreesOff place u) (p : FilePath) :
    (t.remove p).AgreesOff place (u.remove p) := by
  refine ⟨h.cwd, h.cwdName, h.refusals, fun q hq => ?_, ?_⟩
  · rw [at?_remove, at?_remove, h.cwd, h.elsewhere q hq]
  · rw [at?_remove, at?_remove, h.cwd]
    split
    · rfl
    split
    · rfl
    · exact h.kind

theorem refuse (h : t.AgreesOff place u) (c : FileCall) (p : FilePath) (r : Option Refusal) :
    (t.refuse c p r).AgreesOff place (u.refuse c p r) :=
  ⟨h.cwd, h.cwdName, by rw [FileTree.refuse, FileTree.refuse, h.refusals], h.elsewhere, h.kind⟩

theorem makeFolders (h : t.AgreesOff place u) (p : FilePath) :
    (t.makeFolders p).AgreesOff place (u.makeFolders p) := by
  rw [FileTree.makeFolders, FileTree.makeFolders, h.cwd]
  dsimp only
  generalize FilePath.absolute u.cwd p = parts
  -- a folder is made where nothing is, and that does not differ
  induction List.range parts.length generalizing t u with
  | nil => exact h
  | cons n rest ih =>
    rw [List.foldl_cons, List.foldl_cons, h.isSome]
    split
    · exact ih h
    · exact ih (h.put _ _)

theorem write (h : t.AgreesOff place u) (p : FilePath) (content : ByteArray)
    (changed : FileTime) :
    (t.write p content changed).AgreesOff place (u.write p content changed) := by
  rw [FileTree.write, FileTree.write, h.cwd]
  exact (h.makeFolders _).put _ _

/-- A file that is opened at `q` is opened in both trees. -/
theorem openAt (h : t.AgreesOff place u) (q : List String) :
    Agree (AgreesOff place) (t.openAt q) (u.openAt q) := by
  have hwalk := h.walk q []
  have habove := h.walk q.dropLast []
  rw [FileTree.openAt, FileTree.openAt]
  split
  · exact .error _
  rcases ht : t.walk [] q with f | ⟨_, e⟩
  · rw [ht] at hwalk
    rw [hwalk.eq_error]
    cases f with
    -- a file that is not there is made, if the one above it is a folder
    | notFound =>
      dsimp only
      rcases hta : t.walk [] q.dropLast with f | ⟨_, e⟩
      · rw [hta] at habove
        rw [habove.eq_error]
        exact .error _
      · rw [hta] at habove
        obtain ⟨⟨_, e'⟩, hua, hfound⟩ := habove.exists_ok
        have hb := hfound.blank
        rw [hua]
        cases e <;> cases e' <;> try cases hb
        · exact .ok (h.put q _)
        · exact .error _
    | _ => exact .error _
  · rw [ht] at hwalk
    obtain ⟨⟨_, e'⟩, hu, hfound⟩ := hwalk.exists_ok
    have hb := hfound.blank
    rw [hu]
    cases e <;> cases e' <;> try cases hb
    · exact .error _
    · exact .ok h

end AgreesOff

end FileTree

/-- **The settings `s` set up the journal in the same way** in both trees. -/
theorem LoggingSettings.agree_configure (s : LoggingSettings) {place : List String}
    {t u : FileTree} (h : t.AgreesOff place u) :
    Agree (fun a b => a.1 = b.1 ∧ a.2.cwd = t.cwd ∧ a.2.AgreesOff place b.2) (s.configure t)
      (s.configure u) := by
  refine Agree.bind_left s.filePath fun path? => ?_
  rcases path? with _ | p
  · exact .ok ⟨rfl, rfl, h⟩
  dsimp only
  rw [h.cwd, h.fullText]
  have hopen := h.openAt (FilePath.absolute u.cwd p)
  rcases ht : t.openAt (FilePath.absolute u.cwd p) with f | opened
  · rw [ht] at hopen
    rw [hopen.eq_error]
    exact .error _
  · rw [ht] at hopen
    obtain ⟨opened', hu, hopened⟩ := hopen.exists_ok
    rw [hu]
    exact .ok ⟨rfl, (FileTree.cwd_openAt ht).trans h.cwd, hopened⟩

end DumpKeeper
