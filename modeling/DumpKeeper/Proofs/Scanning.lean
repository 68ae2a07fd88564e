import DumpKeeper.Proofs.Spelling

/-!
# Groups searched for

The groups of a duration can be read one after the other, or they can be searched for.  A search
goes through the text until a group begins, whatever it has to skip; at each place it tries to take
digits, blanks and letters, as many of each as there are, and then fewer and fewer of them.  A text
is refused if more than blanks was skipped.  Neither the fewer digits and blanks nor the places that
are skipped make a difference: both ways come to the same sum or to the same error.

* `cuts`, `matchesOf` — the ways to take characters of a kind, or a group, off a text, in the order
  in which they are tried.
* `head?_matchesOf` — the first way that works takes as many characters as there are.
* `search`, `scan` — the first place where a group begins, and the sum of all groups found.
* `scan_eq_sumGroups` — searching and reading are the same.
-/

set_option autoImplicit false

namespace DumpKeeper.Duration

open Text

/-! ## Ways to take a group off a text -/

/-- The ways to take characters of the kind `p` off a text, together with what is left, the longest
one first. -/
def cuts (p : Char → Bool) : List Char → List (List Char × List Char)
  | [] => [([], [])]
  | c :: cs =>
    if p c then (cuts p cs).map (fun cut => (c :: cut.1, cut.2)) ++ [([], c :: cs)]
    else [([], c :: cs)]

/-- Those of the `cuts` that take one character or more. -/
def someCuts (p : Char → Bool) (cs : List Char) : List (List Char × List Char) :=
  (cuts p cs).filter fun cut => !cut.1.isEmpty

/-- The ways to take a group off the text `cs`, in the order in which they are tried. -/
def matchesOf (cs : List Char) : List (Group × List Char) :=
  (someCuts isDigit cs).flatMap fun digits =>
    (cuts isBlank digits.2).flatMap fun inner =>
      (someCuts isLetter inner.2).map fun unit => (⟨digits.1, unit.1⟩, unit.2)

variable {p : Char → Bool} {cs : List Char}

/-- All ways of `cuts` but the first one leave a character of the kind `p` in front. -/
theorem cuts_eq (p : Char → Bool) (cs : List Char) :
    ∃ shorter, cuts p cs = (cs.takeWhile p, cs.dropWhile p) :: shorter ∧
      ∀ cut ∈ shorter, ∃ c l, cut.2 = c :: l ∧ p c = true := by
  induction cs with
  | nil => exact ⟨[], rfl, by simp⟩
  | cons c cs ih =>
    obtain ⟨shorter, hcuts, hshorter⟩ := ih
    by_cases hc : p c = true
    · refine ⟨shorter.map (fun cut => (c :: cut.1, cut.2)) ++ [([], c :: cs)], ?_, ?_⟩
      · rw [cuts, if_pos hc, hcuts, List.takeWhile_cons_of_pos hc, List.dropWhile_cons_of_pos hc]
        rfl
      · intro cut hcut
        rcases List.mem_append.1 hcut with hcut | hcut
        · obtain ⟨first, hfirst, rfl⟩ := List.mem_map.1 hcut
          exact hshorter first hfirst
        · obtain rfl := List.mem_singleton.1 hcut
          exact ⟨c, cs, rfl, hc⟩
    · refine ⟨[], ?_, by simp⟩
      rw [cuts, if_neg hc, List.takeWhile_cons_of_neg hc, List.dropWhile_cons_of_neg hc]

/-- Where nothing can be taken, `cuts` has one way not to take anything. -/
theorem cuts_of_takeWhile_eq_nil (h : cs.takeWhile p = []) : cuts p cs = [([], cs)] := by
  cases cs with
  | nil => rfl
  | cons c cs =>
    have hc : ¬p c = true := by
      intro hc
      rw [List.takeWhile_cons_of_pos hc] at h
      cases h
    rw [cuts, if_neg hc]

theorem someCuts_of_takeWhile_eq_nil (h : cs.takeWhile p = []) : someCuts p cs = [] := by
  rw [someCuts, cuts_of_takeWhile_eq_nil h]
  rfl

/-- If something can be taken, all ways of `someCuts` begin with the longest one. -/
theorem someCuts_of_takeWhile_ne_nil (h : cs.takeWhile p ≠ []) :
    ∃ shorter, someCuts p cs = (cs.takeWhile p, cs.dropWhile p) :: shorter ∧
      ∀ cut ∈ shorter, ∃ c l, cut.2 = c :: l ∧ p c = true := by
  obtain ⟨shorter, hcuts, hshorter⟩ := cuts_eq p cs
  have hlongest : (!(cs.takeWhile p, cs.dropWhile p).1.isEmpty) = true := by simpa using h
  refine ⟨shorter.filter fun cut => !cut.1.isEmpty, ?_, fun cut hcut =>
    hshorter cut (List.mem_of_mem_filter hcut)⟩
  rw [someCuts, hcuts]
  exact List.filter_cons_of_pos hlongest

/-- If no way but the `longest` one leads on, the others make no difference. -/
theorem flatMap_of_longest {α β : Type} {f : α → List β} {longest : α} {shorter : List α}
    (h : ∀ cut ∈ shorter, f cut = []) : (longest :: shorter).flatMap f = f longest := by
  rw [List.flatMap_cons, List.flatMap_eq_nil_iff.2 h, List.append_nil]

theorem takeWhile_cons_eq_nil {c : Char} {l : List Char} (h : p c = false) :
    (c :: l).takeWhile p = [] :=
  List.takeWhile_cons_of_neg (by simp [h])

/-- **The ways to take a group off the text `cs`** differ in the letters only. -/
theorem matchesOf_eq (h : cs.takeWhile isDigit ≠ []) :
    matchesOf cs = (someCuts isLetter ((cs.dropWhile isDigit).dropWhile isBlank)).map fun unit =>
      (⟨cs.takeWhile isDigit, unit.1⟩, unit.2) := by
  obtain ⟨shorter, hdigits, hshorter⟩ := someCuts_of_takeWhile_ne_nil h
  rw [matchesOf, hdigits, flatMap_of_longest]
  · obtain ⟨shorter, hblanks, hshorter⟩ := cuts_eq isBlank (cs.dropWhile isDigit)
    rw [hblanks, flatMap_of_longest]
    -- with fewer blanks there is a blank where a letter should be
    intro cut hcut
    obtain ⟨c, l, hleft, hc⟩ := hshorter cut hcut
    have hletter : isLetter c = false := by
      rw [← Bool.not_eq_true]
      intro hletter
      rw [isBlank_of_isLetter hletter] at hc
      cases hc
    rw [hleft, someCuts_of_takeWhile_eq_nil (takeWhile_cons_eq_nil hletter)]
    rfl
  · -- with fewer digits there is a digit where a blank or a letter should be
    intro cut hcut
    obtain ⟨c, l, hleft, hc⟩ := hshorter cut hcut
    obtain ⟨hblank, hletter⟩ := of_isDigit hc
    rw [hleft, cuts_of_takeWhile_eq_nil (takeWhile_cons_eq_nil hblank), List.flatMap_singleton,
      someCuts_of_takeWhile_eq_nil (takeWhile_cons_eq_nil hletter)]
    rfl

/-- **The first way to take a group off the text `cs`** takes as many characters as there are, as
`nextGroup?` does. -/
theorem head?_matchesOf (cs : List Char) : (matchesOf cs).head? = nextGroup? cs := by
  by_cases hdigits : cs.takeWhile isDigit = []
  · rw [matchesOf, someCuts_of_takeWhile_eq_nil hdigits, nextGroup?, hdigits]
    rfl
  rw [matchesOf_eq hdigits]
  by_cases hunit : ((cs.dropWhile isDigit).dropWhile isBlank).takeWhile isLetter = []
  · rw [someCuts_of_takeWhile_eq_nil hunit, nextGroup?]
    simp [hunit]
  · obtain ⟨shorter, hletters, -⟩ := someCuts_of_takeWhile_ne_nil hunit
    rw [hletters, nextGroup?]
    simp [hdigits, hunit]

/-! ## Searching -/

/-- The first place of a text where a group begins: what is skipped, the group, and what is behind
it. -/
def search : List Char → Option (List Char × Group × List Char)
  | [] => none
  | c :: cs =>
    match (matchesOf (c :: cs)).head? with
    | some (g, rest) => some ([], g, rest)
    | none => (search cs).map fun found => (c :: found.1, found.2)

/-- What `search` finds is a group `g`, behind what is `skipped`. -/
theorem search_eq_some {skipped rest : List Char} {g : Group}
    (h : search cs = some (skipped, g, rest)) :
    ∃ text, cs = skipped ++ text ∧ nextGroup? text = some (g, rest) := by
  induction cs generalizing skipped with
  | nil => cases h
  | cons c cs ih =>
    rw [search, head?_matchesOf] at h
    rcases hnext : nextGroup? (c :: cs) with _ | ⟨g', rest'⟩
    · rw [hnext, Option.map_eq_some_iff] at h
      obtain ⟨⟨skipped', g', rest'⟩, hfound, heq⟩ := h
      cases heq
      obtain ⟨text, rfl, htext⟩ := ih hfound
      exact ⟨text, rfl, htext⟩
    · rw [hnext] at h
      cases h
      exact ⟨c :: cs, rfl, hnext⟩

theorem length_lt_of_search {skipped rest : List Char} {g : Group}
    (h : search cs = some (skipped, g, rest)) : rest.length < cs.length := by
  obtain ⟨text, rfl, htext⟩ := search_eq_some h
  rw [List.length_append]
  exact (nextGroup?_length _ _ _ htext).trans_le (Nat.le_add_left _ _)

/-- The sum of the groups that are found in the text `cs`, added to `total`.  More than blanks is
not to be skipped, nor left at the end. -/
def scan (shown : String) (total : Nat) (cs : List Char) : Except Error Nat :=
  match _h : search cs with
  | none => if cs.all isBlank then .ok total else .error (.malformed shown)
  | some (skipped, g, rest) =>
    if skipped.all isBlank then
      match g.steps shown with
      | .error e => .error e
      | .ok n => scan shown (Binary64.keep53 (total + n)) rest
    else .error (.malformed shown)
  termination_by cs.length
  decreasing_by exact length_lt_of_search _h

/-- `search` skips a character `c` that no group begins with. -/
theorem search_cons {c : Char} (h : nextGroup? (c :: cs) = none) :
    search (c :: cs) = (search cs).map fun found => (c :: found.1, found.2) := by
  rw [search, head?_matchesOf, h]

/-- `search` ends where a group begins. -/
theorem search_of_nextGroup? {rest : List Char} {g : Group} (h : nextGroup? cs = some (g, rest)) :
    search cs = some ([], g, rest) := by
  cases cs with
  | nil => cases h
  | cons c cs => rw [search, head?_matchesOf, h]

/-- No group begins with a blank. -/
theorem nextGroup?_of_blank {c : Char} (h : isBlank c = true) : nextGroup? (c :: cs) = none := by
  have hdigit : isDigit c = false := by
    rw [← Bool.not_eq_true]
    intro hdigit
    rw [(of_isDigit hdigit).1] at h
    cases h
  rw [nextGroup?, takeWhile_cons_eq_nil hdigit]
  rfl

/-- `search` skips `blanks`. -/
theorem search_append {blanks : List Char} (h : ∀ c ∈ blanks, isBlank c = true) :
    search (blanks ++ cs) = (search cs).map fun found => (blanks ++ found.1, found.2) := by
  induction blanks with
  | nil => simp
  | cons c blanks ih =>
    rw [List.cons_append, search_cons (nextGroup?_of_blank (h c List.mem_cons_self)),
      ih fun b hb => h b (List.mem_cons_of_mem c hb), Option.map_map]
    rfl

section Scan

variable {shown : String} {total : Nat} {skipped rest : List Char} {g : Group}

theorem scan_of_none (h : search cs = none) :
    scan shown total cs = if cs.all isBlank then .ok total else .error (.malformed shown) := by
  rw [scan]
  split
  · rfl
  · rename_i hsome
    rw [h] at hsome
    cases hsome

theorem scan_of_some (h : search cs = some (skipped, g, rest)) :
    scan shown total cs =
      if skipped.all isBlank then
        match g.steps shown with
        | .error e => .error e
        | .ok n => scan shown (Binary64.keep53 (total + n)) rest
      else .error (.malformed shown) := by
  rw [scan]
  split
  · rename_i hnone
    rw [h] at hnone
    cases hnone
  · rename_i hsome
    rw [h] at hsome
    cases hsome
    rfl

/-- **Searching for groups and reading them one after the other are the same**: `scan` does what
`sumGroups` does. -/
theorem scan_eq_sumGroups (shown : String) (total : Nat) (cs : List Char) :
    scan shown total cs = sumGroups shown total cs := by
  have hblank : ∀ c ∈ cs.takeWhile isBlank, isBlank c = true := fun c => List.mem_takeWhile_imp
  have hsearch : search (cs.takeWhile isBlank ++ cs.dropWhile isBlank) = _ := search_append hblank
  rw [List.takeWhile_append_dropWhile] at hsearch
  rcases hnext : nextGroup? (cs.dropWhile isBlank) with _ | ⟨g, rest⟩
  · rcases htext : cs.dropWhile isBlank with _ | ⟨c, text⟩
    · -- nothing but blanks
      have hall := List.dropWhile_eq_nil_iff.1 htext
      rw [htext] at hsearch
      rw [scan_of_none hsearch, if_pos (List.all_eq_true.2 hall), sumGroups_of_blank hall]
    · -- something else, which has to be skipped
      have hc : ¬isBlank c = true := by
        have hhead := List.head?_dropWhile_not isBlank cs
        rw [htext] at hhead
        simpa using hhead
      rw [sumGroups_of_none (by simp [htext]) hnext]
      rw [htext] at hnext
      rw [htext, search_cons hnext, Option.map_map] at hsearch
      rcases hrest : search text with _ | ⟨skipped, g, rest⟩
      · rw [hrest] at hsearch
        rw [scan_of_none hsearch, if_neg]
        intro hall
        rw [List.dropWhile_eq_nil_iff.2 (List.all_eq_true.1 hall)] at htext
        cases htext
      · rw [hrest] at hsearch
        rw [scan_of_some hsearch, if_neg]
        simp [hc]
  · rw [search_of_nextGroup? hnext] at hsearch
    rw [scan_of_some hsearch, sumGroups_of_some hnext, if_pos (by simp)]
    rcases g.steps shown with e | n
    · rfl
    · have hshorter := (nextGroup?_length _ _ _ hnext).trans_le (length_dropWhile_le isBlank cs)
      exact scan_eq_sumGroups shown _ rest
  termination_by cs.length

end Scan

end DumpKeeper.Duration
