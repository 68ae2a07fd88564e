import DumpKeeper.Duration.Parse
import DumpKeeper.Proofs.Characters
import DumpKeeper.Proofs.Rounding
import Mathlib.Data.List.TakeWhile

/-!
# How durations are spelled

A text spells amounts of units: groups of digits and letters, with blanks where they do no harm.
Digits, blanks and letters are kinds apart, so each run of them ends where it has to, a group can be
read in one way only, and what is read is what is spelled.

The lengths are added up as floating-point numbers.  In whole seconds, every sum below the bound of
durations has far less than 53 binary digits, and no digit is lost; and a sum that has once gone
beyond that bound never comes back.

* `IsGroup`, `nextGroup?_eq_some_iff` — a group in front of a text, and how it is taken off.
* `Term`, `Spells`, `IsSpelled` — amounts of units, and the texts that spell them.
* `sumGroups_of_spells`, `sumGroups_of_not_spells` — what is spelled is added up, and everything
  else is refused.
* `sumTerms_eq` — sums of whole seconds are exact while they are in range.
* `parse_exact` — which texts are durations, and which durations they are.
-/

set_option autoImplicit false

namespace DumpKeeper.Duration

open Text

/-! ## Kinds of characters -/

/-- A digit is neither a blank nor a letter. -/
theorem of_isDigit {c : Char} (h : isDigit c = true) : isBlank c = false ∧ isLetter c = false := by
  have hzeros : ∀ z ∈ zeros, ∀ i < 10,
      isBlank (Char.ofNat (z + i)) = false ∧ isLetter (Char.ofNat (z + i)) = false := by
    decide +kernel
  obtain ⟨d, hd⟩ := Option.isSome_iff_exists.1 h
  obtain ⟨z, hz, -⟩ := Option.map_eq_some_iff.1 hd
  have hbounds := List.find?_some hz
  rw [Bool.and_eq_true, decide_eq_true_eq, decide_eq_true_eq] at hbounds
  have hsplit : z + (c.toNat - z) = c.toNat := by omega
  have hc := hzeros z (List.mem_of_find?_eq_some hz) (c.toNat - z) (by omega)
  rwa [hsplit, Char.ofNat_toNat] at hc

/-- A letter is no blank. -/
theorem isBlank_of_isLetter {c : Char} (h : isLetter c = true) : isBlank c = false := by
  refine forall_ascii (P := fun c => isLetter c = true → isBlank c = false) (by decide +kernel) ?_ h
  refine toNat_lt_of_isAlphanum ?_
  rw [Char.isAlphanum, Bool.or_eq_true]
  exact .inl h

/-! ## Groups -/

/-- A group in front of `rest`: `digits`, then blanks, then the letters of `unit`, and no more
letters behind. -/
structure IsGroup (digits inner unit rest : List Char) : Prop where
  digits_ne : digits ≠ []
  digits : ∀ c ∈ digits, isDigit c = true
  inner : ∀ c ∈ inner, isBlank c = true
  unit_ne : unit ≠ []
  unit : ∀ c ∈ unit, isLetter c = true
  rest : ∀ c ∈ rest.head?, isLetter c = false

section Groups

variable {digits inner unit rest cs : List Char} {g : Group}

/-- The blanks inside a group end at the `unit`. -/
theorem IsGroup.unit_head (h : IsGroup digits inner unit rest) :
    ∀ c ∈ (unit ++ rest).head?, isBlank c = false := by
  obtain ⟨c, unit, rfl⟩ := List.exists_cons_of_ne_nil h.unit_ne
  rintro _ ⟨⟩
  exact isBlank_of_isLetter (h.unit c List.mem_cons_self)

/-- The digits of a group end at the blanks `inner` or at the `unit`. -/
theorem IsGroup.inner_head (h : IsGroup digits inner unit rest) :
    ∀ c ∈ (inner ++ (unit ++ rest)).head?, isDigit c = false := by
  intro c hc
  rw [← Bool.not_eq_true]
  intro hdigit
  obtain ⟨hblank, hletter⟩ := of_isDigit hdigit
  rcases inner with _ | ⟨b, inner⟩
  · obtain ⟨a, unit, rfl⟩ := List.exists_cons_of_ne_nil h.unit_ne
    cases hc
    rw [h.unit _ List.mem_cons_self] at hletter
    cases hletter
  · cases hc
    rw [h.inner _ List.mem_cons_self] at hblank
    cases hblank

/-- A group is found where it is, by `nextGroup?`. -/
theorem IsGroup.nextGroup? (h : IsGroup digits inner unit rest) :
    Duration.nextGroup? (digits ++ (inner ++ (unit ++ rest))) = some (⟨digits, unit⟩, rest) := by
  obtain ⟨hd, hd'⟩ := takeWhile_append_eq h.digits h.inner_head
  obtain ⟨-, hi⟩ := takeWhile_append_eq h.inner h.unit_head
  obtain ⟨hu, hu'⟩ := takeWhile_append_eq h.unit h.rest
  have hne : (digits.isEmpty || unit.isEmpty) = false := by simp [h.digits_ne, h.unit_ne]
  simp only [Duration.nextGroup?, hd, hd', hi, hu, hu', hne]
  rfl

/-- **What `nextGroup?` finds is a group**, by `IsGroup`, and what is behind it. -/
theorem nextGroup?_eq_some_iff :
    nextGroup? cs = some (g, rest) ↔
      ∃ inner, IsGroup g.digits inner g.unit rest ∧
        cs = g.digits ++ (inner ++ (g.unit ++ rest)) := by
  constructor
  · intro h
    simp only [nextGroup?, Option.ite_none_left_eq_some, Bool.or_eq_true, not_or,
      List.isEmpty_iff] at h
    obtain ⟨⟨hdigits, hunit⟩, h⟩ := h
    cases h
    refine ⟨(cs.dropWhile isDigit).takeWhile isBlank, ⟨hdigits, fun c => List.mem_takeWhile_imp,
      fun c => List.mem_takeWhile_imp, hunit, fun c => List.mem_takeWhile_imp, ?_⟩, ?_⟩
    · intro c hc
      have hhead := List.head?_dropWhile_not isLetter ((cs.dropWhile isDigit).dropWhile isBlank)
      rw [Option.mem_def.1 hc] at hhead
      exact hhead
    · simp only [List.takeWhile_append_dropWhile]
  · rintro ⟨inner, h, rfl⟩
    exact h.nextGroup?

end Groups

/-! ## Spelled durations -/

/-- An `amount` of a `unit`. -/
structure Term where
  amount : Nat
  unit : Unit
  deriving DecidableEq, Repr

/-- **The spelling of some terms**: groups with nothing but blanks before, between and behind them,
each of them an amount in digits and a unit by one of its names, in letters of either case. -/
inductive Spells : List Char → List Term → Prop
  /-- Nothing, or blanks. -/
  | nil {blanks : List Char} (blank : ∀ c ∈ blanks, isBlank c = true) : Spells blanks []
  /-- A group in front of others. -/
  | cons {blanks digits inner unit rest : List Char} {u : Unit} {ts : List Term}
      (blank : ∀ c ∈ blanks, isBlank c = true) (group : IsGroup digits inner unit rest)
      (named : Unit.named? unit = some u) (behind : Spells rest ts) :
      Spells (blanks ++ (digits ++ (inner ++ (unit ++ rest))))
        (⟨natOfDigits (digits.filterMap digitValue?), u⟩ :: ts)

/-- What the text `cs` spells: a lone zero, or terms. -/
def IsSpelled (cs : List Char) : Prop := cs = ['0'] ∨ ∃ ts, ts ≠ [] ∧ Spells cs ts

/-- The exact length of the terms `ts` in seconds.  Milliseconds do not count. -/
def secondsOf (ts : List Term) : Nat :=
  (ts.map fun t => t.amount * t.unit.seconds?.getD 0).sum

/-- No more than 300 digits of the text `cs` stand in a row. -/
def HasShortRuns (cs : List Char) : Prop :=
  ∀ run, run <:+: cs → (∀ c ∈ run, isDigit c = true) → run.length ≤ 300

/-- Why a text is refused, if it is no overflow. -/
inductive Error.IsRefusal : Error → Prop
  | empty : IsRefusal .empty
  | malformed (shown : String) : IsRefusal (.malformed shown)
  | unknownUnit (unit shown : String) : IsRefusal (.unknownUnit unit shown)

/-! ## The length of a term -/

/-- The length of the term `t`, in steps. -/
def Term.steps (t : Term) : Nat :=
  match t.unit.seconds? with
  | some factor => Binary64.keep53 (t.amount * factor) * stepsPerSecond
  | none => Binary64.keep53 (Binary64.keep53 t.amount * millisecondSteps)

theorem natOfDigits_lt {ds : List Nat} (h : ∀ d ∈ ds, d < 10) :
    natOfDigits ds < 10 ^ ds.length := by
  induction ds using List.reverseRecOn with
  | nil => decide
  | append_singleton ds d ih =>
    have hd := h d (by simp)
    have hds := ih fun e he => h e (by simp [he])
    rw [natOfDigits_concat, List.length_append, List.length_singleton, pow_succ]
    omega

/-- At most `n` digits spell a number below the power of ten with so many zeros. -/
theorem natOfDigits_filterMap_lt {digits : List Char} {n : Nat} (h : digits.length ≤ n) :
    natOfDigits (digits.filterMap digitValue?) < 10 ^ n := by
  refine (natOfDigits_lt fun d hd => ?_).trans_le
    (Nat.pow_le_pow_right (by decide) ((List.length_filterMap_le _ _).trans h))
  obtain ⟨c, -, hc⟩ := List.mem_filterMap.1 hd
  exact digitValue?_lt c d hc

theorem seconds?_le {u : Unit} {factor : Nat} (h : u.seconds? = some factor) : factor ≤ 604800 := by
  cases u <;> cases h <;> decide

/-- No amount of 300 digits is out of range. -/
theorem fits_of_lt_pow {n : Nat} (h : n ≤ 10 ^ 300 * 604800) : Binary64.fits n = true := by
  have hle : n ≤ 1 * 2 ^ 1020 := h.trans (by decide +kernel)
  exact decide_eq_true ((Binary64.keep53_le (by decide) 1020 hle).trans_lt (by decide +kernel))

/-- **The length of the group `g`** with the unit `u` and no more than 300 digits. -/
theorem Group.steps_eq {g : Group} {u : Unit} (shown : String) (hu : Unit.named? g.unit = some u)
    (hdigits : g.digits.length ≤ 300) :
    g.steps shown = .ok (Term.steps ⟨natOfDigits (g.digits.filterMap digitValue?), u⟩) := by
  have hlimit : ¬digitLimit < g.digits.length := by
    rw [digitLimit]
    omega
  have hamount := natOfDigits_filterMap_lt hdigits
  rw [Group.steps, hu, Term.steps]
  dsimp only
  rw [if_neg hlimit]
  rcases hfactor : u.seconds? with _ | factor
  · dsimp only
    rw [if_pos (fits_of_lt_pow (hamount.le.trans (Nat.le_mul_of_pos_right _ (by decide))))]
  · dsimp only
    rw [if_pos (fits_of_lt_pow (Nat.mul_le_mul hamount.le (seconds?_le hfactor)))]

/-! ## Reading groups -/

section Reading

variable {shown : String} {total : Nat} {cs rest digits : List Char} {g : Group} {ts : List Term}

/-- What is left of a text, `rest`, has short runs of digits if the text has. -/
theorem HasShortRuns.mono (h : HasShortRuns cs) (hrest : rest <:+: cs) : HasShortRuns rest :=
  fun run hrun => h run (hrun.trans hrest)

theorem sumGroups_of_blank (h : ∀ c ∈ cs, isBlank c = true) :
    sumGroups shown total cs = .ok total := by
  rw [sumGroups, List.dropWhile_eq_nil_iff.2 h]
  rfl

/-- Where no group is next, `sumGroups` says that the text is no duration. -/
theorem sumGroups_of_none (hne : cs.dropWhile isBlank ≠ [])
    (h : nextGroup? (cs.dropWhile isBlank) = none) :
    sumGroups shown total cs = .error (.malformed shown) := by
  rw [sumGroups]
  simp only [List.isEmpty_iff, if_neg hne]
  split
  · rfl
  · rename_i hsome
    rw [h] at hsome
    cases hsome

/-- Where a group `g` is next, its length is added by `sumGroups`. -/
theorem sumGroups_of_some (h : nextGroup? (cs.dropWhile isBlank) = some (g, rest)) :
    sumGroups shown total cs =
      match g.steps shown with
      | .error e => .error e
      | .ok n => sumGroups shown (Binary64.keep53 (total + n)) rest := by
  have hne : cs.dropWhile isBlank ≠ [] := by
    intro hnil
    rw [hnil] at h
    cases h
  rw [sumGroups]
  simp only [List.isEmpty_iff, if_neg hne]
  split
  · rename_i hnone
    rw [h] at hnone
    cases hnone
  · rename_i hsome
    rw [h] at hsome
    cases hsome
    rfl

/-- **What a text spells, group by group**, as `nextGroup?` finds them. -/
theorem spells_cons_iff {t : Term} :
    Spells cs (t :: ts) ↔ ∃ g rest, nextGroup? (cs.dropWhile isBlank) = some (g, rest) ∧
      Unit.named? g.unit = some t.unit ∧ t.amount = natOfDigits (g.digits.filterMap digitValue?) ∧
        Spells rest ts := by
  constructor
  · rintro (_ | @⟨blanks, digits, inner, unit, rest, u, _, blank, group, named, behind⟩)
    have hhead : ∀ c ∈ (digits ++ (inner ++ (unit ++ rest))).head?, isBlank c = false := by
      obtain ⟨c, digits, rfl⟩ := List.exists_cons_of_ne_nil group.digits_ne
      rintro _ ⟨⟩
      exact (of_isDigit (group.digits c List.mem_cons_self)).1
    rw [(takeWhile_append_eq blank hhead).2, group.nextGroup?]
    exact ⟨_, _, rfl, named, rfl, behind⟩
  · obtain ⟨amount, unit⟩ := t
    rintro ⟨g, rest, hnext, named, rfl, behind⟩
    obtain ⟨inner, group, hcs⟩ := nextGroup?_eq_some_iff.1 hnext
    rw [← cs.takeWhile_append_dropWhile (p := isBlank), hcs]
    exact .cons (fun c => List.mem_takeWhile_imp) group named behind

theorem spells_nil_iff : Spells cs [] ↔ ∀ c ∈ cs, isBlank c = true :=
  ⟨fun h => by cases h; assumption, .nil⟩

/-- The digits of the next group `g` stand in the text, and so does what is behind it. -/
theorem infix_of_nextGroup? (h : nextGroup? (cs.dropWhile isBlank) = some (g, rest)) :
    g.digits <:+: cs ∧ (∀ c ∈ g.digits, isDigit c = true) ∧ rest <:+: cs := by
  obtain ⟨inner, group, hcs⟩ := nextGroup?_eq_some_iff.1 h
  have hsuffix : g.digits ++ (inner ++ (g.unit ++ rest)) <:+ cs := hcs ▸ List.dropWhile_suffix _
  refine ⟨(List.prefix_append _ _).isInfix.trans hsuffix.isInfix, group.digits, ?_⟩
  have hrest : rest <:+ g.digits ++ (inner ++ (g.unit ++ rest)) :=
    ((List.suffix_append _ _).trans (List.suffix_append _ _)).trans (List.suffix_append _ _)
  exact (hrest.trans hsuffix).isInfix

/-- The lengths of the terms `ts`, added up from the left, beginning with `total`. -/
def sumTerms (total : Nat) (ts : List Term) : Nat :=
  ts.foldl (fun n t => Binary64.keep53 (n + t.steps)) total

/-- **`sumGroups` adds up the groups of what is spelled.** -/
theorem sumGroups_of_spells (h : Spells cs ts) (hruns : HasShortRuns cs) :
    sumGroups shown total cs = .ok (sumTerms total ts) := by
  induction ts generalizing cs total with
  | nil => exact sumGroups_of_blank (spells_nil_iff.1 h)
  | cons t ts ih =>
    obtain ⟨amount, unit⟩ := t
    obtain ⟨g, rest, hnext, named, rfl, behind⟩ := spells_cons_iff.1 h
    obtain ⟨hdigits, hall, hrest⟩ := infix_of_nextGroup? hnext
    rw [sumGroups_of_some hnext, Group.steps_eq shown named (hruns _ hdigits hall)]
    exact ih behind (hruns.mono hrest)

/-- **`sumGroups` refuses what spells nothing.** -/
theorem sumGroups_of_not_spells {total : Nat} {cs : List Char} (h : ∀ ts, ¬Spells cs ts)
    (hruns : HasShortRuns cs) : ∃ e, sumGroups shown total cs = .error e ∧ e.IsRefusal := by
  have hne : cs.dropWhile isBlank ≠ [] := fun hnil =>
    h [] (.nil (List.dropWhile_eq_nil_iff.1 hnil))
  rcases hnext : nextGroup? (cs.dropWhile isBlank) with _ | ⟨g, rest⟩
  · exact ⟨_, sumGroups_of_none hne hnext, .malformed shown⟩
  obtain ⟨hdigits, hall, hrest⟩ := infix_of_nextGroup? hnext
  rw [sumGroups_of_some hnext]
  rcases hunit : Unit.named? g.unit with _ | u
  · rw [Group.steps, hunit]
    exact ⟨_, rfl, .unknownUnit _ shown⟩
  · rw [Group.steps_eq shown hunit (hruns _ hdigits hall)]
    have hshorter := (nextGroup?_length _ _ _ hnext).trans_le (length_dropWhile_le isBlank cs)
    refine sumGroups_of_not_spells (fun ts hts => ?_) (hruns.mono hrest)
    exact h (⟨_, u⟩ :: ts) (spells_cons_iff.2 ⟨g, rest, hnext, hunit, rfl, hts⟩)
  termination_by cs.length

end Reading

/-! ## Exact sums -/

/-- The seconds that durations stay below. -/
def secondBound : Nat := dayBound * 86400

theorem ofMicros?_mul (n : Nat) :
    ofMicros? (n * microsPerSecond : Nat) =
      if n < secondBound then some (ofSeconds n) else none := by
  have hbound : dayBound * microsPerDay = secondBound * microsPerSecond := rfl
  have hlow : -((dayBound - 1) * microsPerDay : Nat) ≤ ((n * microsPerSecond : Nat) : Int) :=
    (neg_nonpos.2 (Int.natCast_nonneg _)).trans (Int.natCast_nonneg _)
  have hhigh : ((n * microsPerSecond : Nat) : Int) < (dayBound * microsPerDay : Nat) ↔
      n < secondBound := by
    rw [hbound, Nat.cast_lt, Nat.mul_lt_mul_right (by decide)]
  rw [ofMicros?, ofSeconds, ← Nat.cast_mul]
  exact if_congr ((and_iff_right hlow).trans hhigh) rfl rfl

theorem ofSteps?_mul (n : Nat) :
    ofSteps? (n * stepsPerSecond) = ofMicros? (n * microsPerSecond : Nat) := by
  have hpos : 0 < stepsPerSecond := by decide
  have hrest : Binary64.roundDiv (Binary64.keep53 (0 * microsPerSecond)) stepsPerSecond = 0 := by
    decide +kernel
  rw [ofSteps?, microsOfSteps, Nat.mul_div_cancel n hpos, Nat.mul_mod_left, hrest, Nat.add_zero]

/-- A sum that is in range is kept exactly by `keep53`, and one that is out of range stays so. -/
theorem min_keep53 (n : Nat) : min (Binary64.keep53 n) secondBound = min n secondBound := by
  rcases Nat.lt_or_ge n (2 ^ 53) with hlt | hge
  · rw [Binary64.keep53_of_lt n hlt]
  · have hle : secondBound * 2 ^ 0 ≤ n := le_trans (by decide) hge
    have hkeep := Binary64.le_keep53 (by decide) 0 hle
    rw [pow_zero, Nat.mul_one] at hkeep hle
    rw [Nat.min_eq_right hkeep, Nat.min_eq_right hle]

/-- **No sum of whole seconds is rounded** while it is in range: `sumTerms` is `secondsOf` then. -/
theorem sumTerms_eq {ts : List Term} (h : ∀ t ∈ ts, t.unit ≠ .millisecond) (n : Nat) :
    ∃ m, sumTerms (n * stepsPerSecond) ts = m * stepsPerSecond ∧
      min m secondBound = min (n + secondsOf ts) secondBound := by
  -- a sum beyond the bound may be rounded, but not back below it: only the minimum is invariant
  induction ts generalizing n with
  | nil => exact ⟨n, rfl, rfl⟩
  | cons t ts ih =>
    obtain ⟨factor, hfactor⟩ : ∃ factor, t.unit.seconds? = some factor := by
      have hunit := h t List.mem_cons_self
      cases hu : t.unit <;> first | exact ⟨_, rfl⟩ | exact absurd hu hunit
    have hsteps : Binary64.keep53 (n * stepsPerSecond + t.steps) =
        Binary64.keep53 (n + Binary64.keep53 (t.amount * factor)) * stepsPerSecond := by
      rw [Term.steps, hfactor, ← Nat.add_mul]
      exact Binary64.keep53_mul_two_pow _ 62
    have hseconds : secondsOf (t :: ts) = t.amount * factor + secondsOf ts := by
      rw [secondsOf, List.map_cons, List.sum_cons, hfactor]
      rfl
    obtain ⟨m, hm, hmin⟩ := ih (fun u hu => h u (List.mem_cons_of_mem t hu))
      (Binary64.keep53 (n + Binary64.keep53 (t.amount * factor)))
    refine ⟨m, by rw [← hm, ← hsteps]; rfl, ?_⟩
    have hterm := min_keep53 (t.amount * factor)
    have hsum := min_keep53 (n + Binary64.keep53 (t.amount * factor))
    rw [hseconds]
    generalize Binary64.keep53 (n + Binary64.keep53 (t.amount * factor)) = k at hmin hsum
    generalize Binary64.keep53 (t.amount * factor) = a at hterm hsum
    omega

/-! ## Reading durations -/

theorem infix_trim (cs : List Char) : trim cs <:+: cs := by
  have hprefix : trim cs <+: cs.dropWhile isBlank := by
    rw [← List.reverse_suffix, trim, trimEnd, dropEndWhile, List.reverse_reverse]
    exact List.dropWhile_suffix isBlank
  exact hprefix.isInfix.trans (List.dropWhile_suffix isBlank).isInfix

/-- A trimmed text of blanks has none. -/
theorem trim_eq_nil {cs : List Char} (h : ∀ c ∈ trim cs, isBlank c = true) : trim cs = [] := by
  rw [← List.getLast?_eq_none_iff, Option.eq_none_iff_forall_not_mem]
  intro c hc
  have hblank := h c (List.mem_of_getLast? hc)
  rw [isBlank_getLast_trimEnd _ c hc] at hblank
  cases hblank

section Texts

variable {shown text : String} {ts : List Term}

/-- What comes of a sum of groups, however a duration is made of it. -/
theorem ok_sum_elim (make : Nat → Option Duration) (n : Nat) :
    (match (.ok n : Except Error Nat) with
      | .error e => .error e
      | .ok n =>
        match make n with
        | some d => .ok d
        | none => .error .outOfRange : Except Error Duration) =
      (make n).elim (.error .outOfRange) .ok := by
  dsimp only
  rcases make n with _ | d <;> rfl

/-- **What spells terms, `read` reads as their sum.** -/
theorem read_of_spells (hne : ts ≠ []) (h : Spells (trim text.toList) ts)
    (hruns : HasShortRuns text.toList) :
    read shown text = (ofSteps? (sumTerms 0 ts)).elim (.error .outOfRange) .ok := by
  obtain ⟨t, ts, rfl⟩ := List.exists_cons_of_ne_nil hne
  obtain ⟨g, rest, hnext, -⟩ := spells_cons_iff.1 h
  have hnil : trim text.toList ≠ [] := by
    intro hnil
    rw [hnil] at hnext
    cases hnext
  have hzero : trim text.toList ≠ ['0'] := by
    intro hzero
    rw [hzero, show nextGroup? (['0'].dropWhile isBlank) = none by decide] at hnext
    cases hnext
  rw [read, if_neg (by simpa using hnil), if_neg hzero,
    sumGroups_of_spells h (hruns.mono (infix_trim _))]
  -- the bound of durations is too large for its value to be looked at
  generalize ofSteps? = make
  exact ok_sum_elim make _

/-- **Terms without milliseconds, `read` reads as their exact sum**, `secondsOf`. -/
theorem read_of_seconds (hne : ts ≠ []) (h : Spells (trim text.toList) ts)
    (hruns : HasShortRuns text.toList) (hunits : ∀ t ∈ ts, t.unit ≠ .millisecond) :
    read shown text =
      (ofMicros? (secondsOf ts * microsPerSecond : Nat)).elim (.error .outOfRange) .ok := by
  obtain ⟨m, hm, hmin⟩ := sumTerms_eq hunits 0
  rw [Nat.zero_mul] at hm
  rw [read_of_spells hne h hruns, hm, ofSteps?_mul, ofMicros?_mul, ofMicros?_mul]
  rw [Nat.zero_add] at hmin
  congr 1
  rcases Nat.lt_or_ge m secondBound with hlt | hge
  · rw [show secondsOf ts = m by omega]
  · rw [if_neg (by omega), if_neg (by omega)]

/-- **What is not spelled, `read` refuses.** -/
theorem read_of_not_isSpelled (h : ¬IsSpelled (trim text.toList))
    (hruns : HasShortRuns text.toList) : ∃ e, read shown text = .error e ∧ e.IsRefusal := by
  rw [IsSpelled, not_or] at h
  obtain ⟨hzero, hterms⟩ := h
  rw [read]
  by_cases hnil : trim text.toList = []
  · rw [hnil]
    exact ⟨_, rfl, .empty⟩
  have hspells : ∀ ts, ¬Spells (trim text.toList) ts := by
    intro ts hts
    by_cases hts' : ts = []
    · subst hts'
      exact hnil (trim_eq_nil (spells_nil_iff.1 hts))
    · exact hterms ⟨ts, hts', hts⟩
  obtain ⟨e, he, hrefusal⟩ : ∃ e, sumGroups shown 0 (trim text.toList) = .error e ∧ e.IsRefusal :=
    sumGroups_of_not_spells hspells (hruns.mono (infix_trim _))
  rw [if_neg (by simpa using hnil), if_neg hzero, he]
  exact ⟨e, rfl, hrefusal⟩

theorem read_zero (h : trim text.toList = ['0']) : read shown text = .ok (ofSeconds 0) := by
  rw [read, h]
  rfl

end Texts

theorem hasShortRuns_of_length_le {cs : List Char} (h : cs.length ≤ 300) : HasShortRuns cs :=
  fun _ hrun _ => hrun.length_le.trans h

theorem secondsOf_perm {ts us : List Term} (h : us.Perm ts) : secondsOf us = secondsOf ts :=
  (h.map _).sum_eq

/-- **Which texts are durations, and which ones.**  If no more than 300 digits stand in a row,
`parse` takes `text` for a duration, in range or out of it, just when without the blanks around it
it is a lone zero or spells terms; every other text is refused; and terms without milliseconds come
to their exact sum if it is in range, in whatever order and with whatever blanks, letters and names
they are spelled. -/
theorem parse_exact (text : String) (hruns : HasShortRuns text.toList) :
    ((∃ d, parse text = .ok d) ∨ parse text = .error .outOfRange ↔
      IsSpelled (trim text.toList)) ∧
    (¬IsSpelled (trim text.toList) → ∃ e, parse text = .error e ∧ e.IsRefusal) ∧
    (trim text.toList = ['0'] → parse text = .ok (ofSeconds 0)) ∧
    ∀ ts, ts ≠ [] → Spells (trim text.toList) ts → (∀ t ∈ ts, t.unit ≠ .millisecond) →
      parse text =
        (ofMicros? (secondsOf ts * microsPerSecond : Nat)).elim (.error .outOfRange) .ok ∧
      ∀ (other : String) (us : List Term), HasShortRuns other.toList →
        Spells (trim other.toList) us → us.Perm ts → parse other = parse text := by
  refine ⟨⟨fun h => ?_, ?_⟩, fun h => read_of_not_isSpelled h hruns, read_zero, ?_⟩
  · by_contra hspelled
    obtain ⟨e, he, hrefusal⟩ : ∃ e, read (quoted text) text = .error e ∧ e.IsRefusal :=
      read_of_not_isSpelled hspelled hruns
    rw [parse, he] at h
    rcases h with ⟨d, h⟩ | h
    · cases h
    · cases h
      cases hrefusal
  · rintro (hzero | ⟨ts, hne, hspells⟩)
    · exact .inl ⟨_, read_zero hzero⟩
    · rw [parse, read_of_spells hne hspells hruns]
      generalize ofSteps? = make
      rcases make (sumTerms 0 ts) with _ | d
      · exact .inr rfl
      · exact .inl ⟨d, rfl⟩
  · intro ts hne hspells hunits
    refine ⟨read_of_seconds hne hspells hruns hunits, fun other us hruns' hspells' hperm => ?_⟩
    have hne' : us ≠ [] := by
      rintro rfl
      exact hne hperm.nil_eq.symm
    rw [parse, parse, read_of_seconds hne hspells hruns hunits, read_of_seconds hne' hspells' hruns'
      fun t ht => hunits t (hperm.mem_iff.1 ht), secondsOf_perm hperm]

/-- An hour and a half, in one order and in the other. -/
theorem parse_exact_ninetyMinutes :
    parse "1 Hour 30m" = .ok (ofSeconds 5400) ∧ parse "٣٠ minutes 1h" = parse "1 Hour 30m" := by
  have hspells : Spells (trim "1 Hour 30m".toList) [⟨1, .hour⟩, ⟨30, .minute⟩] :=
    spells_cons_iff.2 ⟨⟨['1'], "Hour".toList⟩, " 30m".toList, by decide, by decide, by decide,
      spells_cons_iff.2 ⟨⟨['3', '0'], ['m']⟩, [], by decide, by decide, by decide, .nil (by simp)⟩⟩
  have hspells' : Spells (trim "٣٠ minutes 1h".toList) [⟨30, .minute⟩, ⟨1, .hour⟩] :=
    spells_cons_iff.2 ⟨⟨['٣', '٠'], "minutes".toList⟩, " 1h".toList, by decide, by decide,
      by decide, spells_cons_iff.2
        ⟨⟨['1'], ['h']⟩, [], by decide, by decide, by decide, .nil (by simp)⟩⟩
  obtain ⟨-, -, -, hsum⟩ := parse_exact "1 Hour 30m" (hasShortRuns_of_length_le (by decide))
  obtain ⟨hvalue, hsame⟩ := hsum _ (by simp) hspells (by decide)
  exact ⟨hvalue, hsame _ _ (hasShortRuns_of_length_le (by decide)) hspells' (.swap _ _ _)⟩

end DumpKeeper.Duration
