import DumpKeeper.Proofs.Escapes
import DumpKeeper.Proofs.Parameters
import DumpKeeper.Proofs.Stamp
import DumpKeeper.Proofs.Validity

/-!
# Locators as they are written

Somebody who writes a locator has a bucket, a folder and a few settings in mind.  A bucket and a
folder are written as they are, and the value of a setting byte by byte, so that no mark in it can
be taken for one of the locator.  What is read is what was in mind.

* `WrittenLocator`, `WrittenLocator.text` — a locator with what is meant by it, and its text.
* `parts_text`, `fields_of_query` — how the text falls into parts and its query into fields.
* `WrittenLocator.last` — what the settings of a name come to: the last one that says something.
* `IsTrimmed`, `isTrimmed_trimSlashes` — a folder without the slashes at its ends.
* `ofLocator_text_describes` — the target that is read is the one that is described.
-/

set_option autoImplicit false

namespace DumpKeeper

open Text Url

/-! ## Spellings -/

/-- The schemes of the kinds of stores. -/
def schemes : List (String × BackendKind) := [("s3", .s3), ("gs", .gcs), ("gcs", .gcs)]

/-- Whether a bucket may have the character `c`. -/
def isBucketChar (c : Char) : Bool := isPlain ['.', '-', '_'] c

/-- Whether a folder may have the character `c`. -/
def isFolderChar (c : Char) : Bool := isPlain ['-', '.', '_', '~', '/'] c

/-- A setting in the query of a locator: its `name`, the `value` that is meant, and the text in
which it is `written`. -/
structure WrittenParameter (kind : BackendKind) where
  name : String
  value : String
  written : List Char
  known : name ∈ knownParameters kind
  writes : Writes written (utf8 value.toList)

/-- A locator as it is written: a scheme in any letter case, a bucket and a folder as they are, and,
where there is a query, settings in any order and as often as anybody likes. -/
structure WrittenLocator where
  kind : BackendKind
  scheme : String
  bucket : String
  folder : String
  query : Option (List (WrittenParameter kind))
  scheme_mem : (scheme.toLower, kind) ∈ schemes
  bucket_ne : bucket ≠ ""
  bucket_plain : ∀ c ∈ bucket.toList, isBucketChar c = true
  folder_plain : ∀ c ∈ folder.toList, isFolderChar c = true

/-- The text of the setting `p`. -/
def WrittenParameter.piece {kind : BackendKind} (p : WrittenParameter kind) : List Char :=
  p.name.toList ++ '=' :: p.written

namespace WrittenLocator

variable (l : WrittenLocator)

/-- The settings in the query of `l`. -/
def parameters : List (WrittenParameter l.kind) := l.query.getD []

/-- The text of the query of `l`. -/
def queryText : List Char := ['&'].intercalate (l.parameters.map (·.piece))

/-- What stands behind the folder of `l`. -/
def ending : List Char := if l.query.isSome then '?' :: l.queryText else []

/-- The text of the locator `l`. -/
def text : String :=
  String.ofList (l.scheme.toList ++ ':' :: '/' :: '/' ::
    (l.bucket.toList ++ '/' :: (l.folder.toList ++ l.ending)))

/-- What the settings of `l` by this `name` come to: the last one that says something, if there is
one. -/
def last (name : String) : Value :=
  match (l.parameters.filter fun p => p.name = name ∧ p.value ≠ "").getLast? with
  | some p => .text p.value
  | none => .null

end WrittenLocator

/-- `t` is the text `s` without the slashes at its two ends.  Slashes inside it stay. -/
structure IsTrimmed (s t : String) : Prop where
  eq : ∃ m n, s = slashes m ++ t ++ slashes n
  head : t.toList.head? ≠ some '/'
  last : t.toList.getLast? ≠ some '/'

/-- **The target `t` is what the locator `l` describes.** -/
structure WrittenLocator.Describes (l : WrittenLocator) (t : StorageTarget) : Prop where
  kind : t.kind = l.kind
  bucket : t.bucket = l.bucket
  folder : IsTrimmed l.folder t.folder
  region : t.region = l.last "region"
  endpoint : t.endpoint = l.last "endpoint"
  projectId : t.projectId = l.last "project_id"
  /-- The settings of the other kind of store are left open. -/
  fits : t.Fits

/-! ## Kinds of characters -/

/-- A letter `c` in lower case below 128 comes from a character below 128. -/
theorem toNat_lt_of_toLower {c : Char} (h : c.toLower.toNat < 128) : c.toNat < 128 := by
  by_cases hupper : c.val ≥ 'A'.val ∧ c.val ≤ 'Z'.val
  · exact Nat.lt_of_le_of_lt hupper.2 (by decide)
  · have hsame : c.toLower = c := dif_neg hupper
    rwa [hsame] at h

/-- Letters and digits of a scheme, in either case: `isSchemeChar`. -/
theorem of_toLower_isAlphanum {c : Char} (h : c.toLower.isAlphanum = true) :
    isSchemeChar c = true ∧ c ≠ ':' ∧ 32 < c.toNat :=
  forall_ascii (P := fun c => c.toLower.isAlphanum = true → isSchemeChar c = true ∧ c ≠ ':' ∧
    32 < c.toNat) (by decide +kernel) (toNat_lt_of_toLower (toNat_lt_of_isAlphanum h)) h

theorem isAlpha_of_toLower {c : Char} (h : c.toLower.isAlpha = true) : c.isAlpha = true :=
  forall_ascii (P := fun c => c.toLower.isAlpha = true → c.isAlpha = true) (by decide +kernel)
    (toNat_lt_of_toLower (toNat_lt_of_isAlphanum (by rw [Char.isAlphanum, h]; rfl))) h

/-- A character of a bucket, by `isBucketChar`, is none of the marks of a locator. -/
theorem of_isBucketChar {c : Char} (h : isBucketChar c = true) :
    c.toNat < 128 ∧ 32 < c.toNat ∧ c ∉ ['/', '?', '#', '[', ']'] :=
  of_isPlain (P := fun c => 32 < c.toNat ∧ c ∉ ['/', '?', '#', '[', ']']) (by decide)
    (by decide +kernel) h

/-- A character of a folder, by `isFolderChar`, does not end it. -/
theorem of_isFolderChar {c : Char} (h : isFolderChar c = true) :
    c.toNat < 128 ∧ 32 < c.toNat ∧ c ∉ ['?', '#'] :=
  of_isPlain (P := fun c => 32 < c.toNat ∧ c ∉ ['?', '#']) (by decide) (by decide +kernel) h

/-! ## Parts of the text -/

namespace Url

variable {scheme authority path tail rest cs : List Char}

/-- A text `cs` without blanks and controls is seen as it is. -/
theorem seen_eq (h : ∀ c ∈ cs, 32 < c.toNat) :
    ((cs.dropWhile fun c => c.toNat ≤ 32).filter fun c =>
      !(c == '\t' || c == '\r' || c == '\n')) = cs := by
  have hdrop : cs.dropWhile (fun c => c.toNat ≤ 32) = cs := by
    rcases cs with _ | ⟨c, cs⟩
    · rfl
    · exact List.dropWhile_cons_of_neg (by simpa using h c List.mem_cons_self)
  rw [hdrop, List.filter_eq_self]
  intro c hc
  have hne : ∀ d : Char, d.toNat ≤ 32 → (c == d) = false := by
    intro d hd
    refine beq_false_of_ne ?_
    rintro rfl
    exact absurd (h c hc) (Nat.not_lt.2 hd)
  rw [hne '\t' (by decide), hne '\r' (by decide), hne '\n' (by decide)]
  rfl

theorem cutAt_append {mark : Char} (h : mark ∉ cs) :
    cutAt mark (cs ++ mark :: rest) = (cs, rest) := by
  obtain ⟨htake, hdrop⟩ := takeWhile_append_eq (p := (· != mark)) (l := cs) (r := mark :: rest)
    (fun c hc => bne_iff_ne.2 fun he => h (he ▸ hc)) (by rintro _ ⟨⟩; simp)
  rw [cutAt, htake, hdrop]
  rfl

theorem cutAt_of_notMem {mark : Char} (h : mark ∉ cs) : cutAt mark cs = (cs, []) := by
  obtain ⟨htake, hdrop⟩ := takeWhile_append_eq (p := (· != mark)) (l := cs) (r := [])
    (fun c hc => bne_iff_ne.2 fun he => h (he ▸ hc)) nofun
  rw [List.append_nil] at htake hdrop
  rw [cutAt, htake, hdrop]
  rfl

theorem cutScheme_append {c : Char} (hc : c.isAlpha = true)
    (h : ∀ d ∈ c :: scheme, isSchemeChar d = true ∧ d ≠ ':') :
    cutScheme (c :: scheme ++ ':' :: rest) = ((c :: scheme).map Char.toLower, rest) := by
  obtain ⟨htake, -⟩ := takeWhile_append_eq (p := (· != ':')) (l := c :: scheme)
    (r := ':' :: rest) (fun d hd => bne_iff_ne.2 (h d hd).2) (by rintro _ ⟨⟩; rfl)
  have hall : (c :: scheme).all isSchemeChar = true :=
    List.all_eq_true.2 fun d hd => (h d hd).1
  have hdrop : (c :: scheme ++ ':' :: rest).drop ((c :: scheme).length + 1) = rest := by
    rw [List.drop_append, List.drop_of_length_le (by omega)]
    simp
  rw [cutScheme, htake, hall, hdrop]
  simp [hc]

theorem cutAuthority_append (h : ∀ c ∈ authority, c ∉ ['/', '?', '#', '[', ']']) :
    cutAuthority ('/' :: '/' :: (authority ++ '/' :: rest)) = (authority, '/' :: rest) := by
  obtain ⟨htake, -⟩ := takeWhile_append_eq (p := fun c => !(c == '/' || c == '?' || c == '#'))
    (l := authority) (r := '/' :: rest) (fun c hc => by
      have hmarks := h c hc
      simp only [List.mem_cons, not_or] at hmarks
      simp [hmarks.1, hmarks.2.1, hmarks.2.2.1]) (by rintro _ ⟨⟩; rfl)
  rw [cutAuthority, htake, List.drop_left]

/-- A plain host passes `checkAuthority`. -/
theorem checkAuthority_of_plain (h : ∀ c ∈ authority, isBucketChar c = true) :
    checkAuthority authority = .ok () := by
  have habsent : ∀ mark ∈ ['/', '?', '#', '[', ']'], authority.contains mark = false := by
    intro mark hmark
    rw [← Bool.not_eq_true, List.contains_iff_mem]
    exact fun hmem => (of_isBucketChar (h mark hmem)).2.2 hmark
  have hmarks : ∀ n ∈ disguisedMarks, 128 ≤ n := by decide
  have hplain : (authority.any fun c => disguisedMarks.contains c.toNat) = false := by
    rw [← Bool.not_eq_true, List.any_eq_true]
    rintro ⟨c, hc, hmark⟩
    have hle := hmarks _ (List.contains_iff_mem.1 hmark)
    have hlt := (of_isBucketChar (h c hc)).1
    omega
  rw [checkAuthority, checkBrackets, habsent '[' (by decide), habsent ']' (by decide), hplain]
  rfl

end Url

/-! ## Settings -/

namespace WrittenParameter

variable {kind : BackendKind} (p : WrittenParameter kind)

/-- A name among `knownParameters` is written as it is. -/
theorem of_known {kind : BackendKind} {name : String} (h : name ∈ knownParameters kind) :
    unescapeField name.toList = name ∧ ∀ c ∈ name.toList, 32 < c.toNat ∧ c ∉ ['=', '&', '#'] := by
  have hall : ∀ kind, ∀ name ∈ knownParameters kind, unescapeField name.toList = name ∧
      name.toList.all (fun c => 32 < c.toNat ∧ c ∉ ['=', '&', '#']) = true := by
    intro kind
    cases kind <;> decide +kernel
  obtain ⟨hname, hchars⟩ := hall kind name h
  exact ⟨hname, fun c hc => of_decide_eq_true (List.all_eq_true.1 hchars c hc)⟩

theorem fieldOf_piece : fieldOf p.piece = ⟨p.name, p.written⟩ := by
  obtain ⟨hname, hchars⟩ := of_known p.known
  have hmark : '=' ∉ p.name.toList := fun h => (hchars _ h).2 (by decide)
  rw [fieldOf, piece, cutAt_append hmark, hname]

/-- The text of a setting, `piece`, has no blanks, and none of the marks that end it. -/
theorem of_mem_piece {c : Char} (h : c ∈ p.piece) : 32 < c.toNat ∧ c ≠ '&' ∧ c ≠ '#' := by
  rcases List.mem_append.1 h with h | h
  · obtain ⟨hvisible, hmarks⟩ := (of_known p.known).2 c h
    simp only [List.mem_cons, not_or] at hmarks
    exact ⟨hvisible, hmarks.2.1, hmarks.2.2.1⟩
  rcases List.mem_cons.1 h with rfl | h
  · decide
  · exact (of_mem_of_writes p.writes c h).2

theorem piece_ne_nil : p.piece ≠ [] := List.append_ne_nil_of_right_ne_nil _ (List.cons_ne_nil _ _)

end WrittenParameter

namespace WrittenLocator

variable (l : WrittenLocator)

theorem of_mem_queryText {c : Char} (h : c ∈ l.queryText) : 32 < c.toNat ∧ c ≠ '#' := by
  rw [queryText] at h
  generalize l.parameters = ps at h
  induction ps with
  | nil => cases h
  | cons p ps ih =>
    rcases ps with _ | ⟨q, qs⟩
    · rw [List.map_singleton, List.intercalate_singleton] at h
      exact ⟨(p.of_mem_piece h).1, (p.of_mem_piece h).2.2⟩
    rw [List.map_cons, List.map_cons, List.intercalate_cons_cons, List.mem_append,
      List.mem_append, List.mem_singleton] at h
    rcases h with (h | rfl) | h
    · exact ⟨(p.of_mem_piece h).1, (p.of_mem_piece h).2.2⟩
    · decide
    · exact ih h

/-- **The text of the query falls into the settings of `l`**, in order. -/
theorem fields_of_query {u : Url} (h : u.query = String.ofList l.queryText) :
    u.fields = l.parameters.map fun p => ⟨p.name, p.written⟩ := by
  have hpieces : (l.queryText.splitOn '&').filter (· ≠ []) = l.parameters.map (·.piece) := by
    rw [queryText]
    rcases hps : l.parameters with _ | ⟨p, ps⟩
    · rfl
    have hmark : ∀ piece ∈ (p :: ps).map (·.piece), '&' ∉ piece := by
      intro piece hpiece hmark
      obtain ⟨p, -, rfl⟩ := List.mem_map.1 hpiece
      exact (p.of_mem_piece hmark).2.1 rfl
    rw [List.splitOn_intercalate '&' hmark (List.cons_ne_nil _ _), List.filter_eq_self]
    intro piece hpiece
    obtain ⟨p, -, rfl⟩ := List.mem_map.1 hpiece
    simpa using p.piece_ne_nil
  rw [fields, h, String.toList_ofList, hpieces, List.map_map]
  exact List.map_congr_left fun p _ => p.fieldOf_piece

/-- The settings that are looked at, `parameters`, are those that say something. -/
theorem parameters_of_query {u : Url} (h : u.query = String.ofList l.queryText) :
    u.parameters = (l.parameters.filter fun p => p.value ≠ "").map fun p => (p.name, p.value) := by
  rw [parameters_eq, l.fields_of_query h, List.filter_map, List.map_map]
  have hfilter : l.parameters.filter ((fun f => decide f.HasValue) ∘
      fun p => (⟨p.name, p.written⟩ : Field)) = l.parameters.filter fun p => p.value ≠ "" :=
    List.filter_congr fun p _ => decide_eq_decide.2 (not_congr (eq_nil_iff_of_writes p.writes))
  rw [hfilter]
  refine List.map_congr_left fun p _ => ?_
  exact congrArg (Prod.mk p.name) (unescapeField_of_writes p.writes)

/-- **The settings by this `name` come to the last one that says something**, by `last`. -/
theorem lastParameter_of_query {u : Url} (h : u.query = String.ofList l.queryText)
    (name : String) : lastParameter u.parameters name = l.last name := by
  have hlookup : ∀ ps : List (WrittenParameter l.kind),
      (ps.map fun p => (p.name, p.value)).lookup name =
        (ps.find? fun p => p.name = name).map (·.value) := by
    intro ps
    induction ps with
    | nil => rfl
    | cons p ps ih =>
      rw [List.map_cons, List.lookup_cons, List.find?_cons, ih]
      by_cases hname : p.name = name
      · rw [hname, beq_self_eq_true, decide_eq_true rfl]
        rfl
      · rw [beq_false_of_ne (Ne.symm hname), decide_eq_false hname]
  rw [lastParameter, l.parameters_of_query h, ← List.map_reverse, hlookup, ← List.getLast?_filter,
    List.filter_filter, last]
  simp only [Bool.decide_and]
  rcases List.getLast? _ with _ | p <;> rfl

/-- The settings of the other kind of store come to nothing: the `last` one is null. -/
theorem last_of_foreign {name : String} (h : name ∉ knownParameters l.kind) :
    l.last name = .null := by
  have hnone : (l.parameters.filter fun p => p.name = name ∧ p.value ≠ "") = [] := by
    rw [List.filter_eq_nil_iff]
    intro p _ hp
    exact h ((of_decide_eq_true hp).1 ▸ p.known)
  rw [last, hnone]
  rfl

/-! ## Reading a locator -/

theorem ofScheme?_toLower : BackendKind.ofScheme? l.scheme.toLower = some l.kind := by
  have hschemes : ∀ s ∈ schemes, BackendKind.ofScheme? s.1 = some s.2 := by decide
  exact hschemes _ l.scheme_mem

theorem toList_toLower (s : String) : s.toLower.toList = s.toList.map Char.toLower :=
  String.toList_map

/-- A `scheme` begins with a letter, and has letters and digits only. -/
theorem exists_scheme : ∃ c cs, l.scheme.toList = c :: cs ∧ c.isAlpha = true ∧
    ∀ d ∈ c :: cs, isSchemeChar d = true ∧ d ≠ ':' ∧ 32 < d.toNat := by
  have hschemes : ∀ s ∈ schemes, (s.1.toList.headD ' ').isAlpha = true ∧
      s.1.toList.all Char.isAlphanum = true := by decide
  obtain ⟨hhead, hall⟩ := hschemes _ l.scheme_mem
  rw [toList_toLower] at hhead hall
  rcases hcs : l.scheme.toList with _ | ⟨c, cs⟩ <;> rw [hcs] at hhead hall
  · exact absurd hhead (by decide)
  · exact ⟨c, cs, rfl, isAlpha_of_toLower hhead, fun d hd =>
      of_toLower_isAlphanum (List.all_eq_true.1 hall _ (List.mem_map_of_mem hd))⟩

theorem toList_text : l.text.toList = l.scheme.toList ++ ':' :: '/' :: '/' ::
    (l.bucket.toList ++ '/' :: (l.folder.toList ++ l.ending)) := String.toList_ofList

theorem of_mem_ending {c : Char} (h : c ∈ l.ending) : 32 < c.toNat ∧ c ≠ '#' := by
  rw [ending] at h
  split at h
  · rcases List.mem_cons.1 h with rfl | h
    · decide
    · exact l.of_mem_queryText h
  · cases h

/-- A locator has neither blanks nor controls in its `text`. -/
theorem of_mem_text {c : Char} (h : c ∈ l.text.toList) : 32 < c.toNat := by
  obtain ⟨_, _, hscheme, -, hchars⟩ := l.exists_scheme
  rw [toList_text, hscheme] at h
  simp only [List.mem_append, List.mem_cons] at h
  rcases h with h | rfl | rfl | rfl | h | rfl | h | h
  · exact (hchars c (List.mem_cons.2 h)).2.2
  any_goals decide
  · exact (of_isBucketChar (l.bucket_plain c h)).2.1
  · exact (of_isFolderChar (l.folder_plain c h)).2.1
  · exact (l.of_mem_ending h).1

/-- The path and the query, cut at the question mark by `cutAt`. -/
theorem cutAt_path : cutAt '?' ('/' :: (l.folder.toList ++ l.ending)) =
    ('/' :: l.folder.toList, l.queryText) := by
  have hmark : '?' ∉ '/' :: l.folder.toList := by
    rintro (_ | ⟨_, h⟩)
    exact (of_isFolderChar (l.folder_plain _ h)).2.2 (by decide)
  rw [ending]
  split
  · exact cutAt_append hmark
  · rename_i hquery
    have hnone : l.query = none := Option.not_isSome_iff_eq_none.1 hquery
    rw [List.append_nil, cutAt_of_notMem hmark, queryText, parameters, hnone]
    rfl

/-- **The text of `l` falls into the parts it was made of.** -/
theorem parts_text :
    parts l.text = ⟨l.scheme.toLower, l.bucket, "/" ++ l.folder, String.ofList l.queryText⟩ := by
  have hauthority : ∀ c ∈ l.bucket.toList, c ∉ ['/', '?', '#', '[', ']'] := fun c hc =>
    (of_isBucketChar (l.bucket_plain c hc)).2.2
  have hmark : '#' ∉ '/' :: (l.folder.toList ++ l.ending) := by
    rintro (_ | ⟨_, h⟩)
    rcases List.mem_append.1 h with h | h
    · exact (of_isFolderChar (l.folder_plain _ h)).2.2 (by decide)
    · exact (l.of_mem_ending h).2 rfl
  obtain ⟨c, cs, hscheme, halpha, hchars⟩ := l.exists_scheme
  have hlower : (c :: cs).map Char.toLower = l.scheme.toLower.toList := by
    rw [toList_toLower, hscheme]
  have hpath : String.ofList ('/' :: l.folder.toList) = "/" ++ l.folder := by
    rw [← String.toList_inj, String.toList_ofList, String.toList_append]
    rfl
  rw [parts, seen_eq fun c => l.of_mem_text, toList_text, hscheme]
  simp only [Url.partsOf, cutScheme_append halpha fun d hd => ⟨(hchars d hd).1, (hchars d hd).2.1⟩,
    cutAuthority_append hauthority, cutAt_of_notMem hmark, cutAt_path, hlower, hpath,
    String.ofList_toList]

end WrittenLocator

/-! ## Folders -/

/-- A text is some slashes, what `trimSlashes` leaves of it, and some slashes. -/
theorem isTrimmed_trimSlashes (s : String) : IsTrimmed s (trimSlashes s) := by
  have hrun : ∀ cs : List Char, ∃ n, cs = List.replicate n '/' ++ cs.dropWhile (· == '/') := by
    intro cs
    induction cs with
    | nil => exact ⟨0, rfl⟩
    | cons c cs ih =>
      obtain ⟨n, hn⟩ := ih
      by_cases hc : c = '/'
      · refine ⟨n + 1, ?_⟩
        rw [List.dropWhile_cons_of_pos (by rw [hc]; rfl), List.replicate_succ, List.cons_append,
          ← hn, hc]
      · exact ⟨0, by rw [List.dropWhile_cons_of_neg (by simpa using hc)]; rfl⟩
  have hhead : ∀ cs : List Char, (cs.dropWhile (· == '/')).head? ≠ some '/' := by
    intro cs h
    have hnot := List.head?_dropWhile_not (· == '/') cs
    rw [h] at hnot
    exact absurd hnot (by decide)
  have ht : (trimSlashes s).toList =
      ((s.toList.dropWhile (· == '/')).reverse.dropWhile (· == '/')).reverse := by
    rw [trimSlashes, dropEndSlashes, String.toList_ofList, String.toList_ofList]
  obtain ⟨m, hm⟩ := hrun s.toList
  obtain ⟨n, hn⟩ := hrun (s.toList.dropWhile (· == '/')).reverse
  have hmiddle : s.toList.dropWhile (· == '/') =
      (trimSlashes s).toList ++ List.replicate n '/' := by
    rw [← List.reverse_inj, hn, ht, List.reverse_append, List.reverse_replicate,
      List.reverse_reverse]
  refine ⟨⟨m, n, ?_⟩, ?_, ?_⟩
  · rw [← String.toList_inj, String.toList_append, String.toList_append, slashes, slashes,
      String.toList_ofList, String.toList_ofList, List.append_assoc, ← hmiddle, ← hm]
  · intro h
    refine hhead s.toList ?_
    rw [hmiddle, List.head?_append, h]
    rfl
  · rw [ht, List.getLast?_reverse]
    exact hhead _

theorem trimSlashes_slash_append (s : String) : trimSlashes ("/" ++ s) = trimSlashes s := by
  rw [trimSlashes, String.toList_append]
  rfl

namespace WrittenLocator

variable (l : WrittenLocator)

/-- No setting of a locator is among the `foreignNames` of its kind of store. -/
theorem foreignNames_text : StorageTarget.foreignNames l.kind (parts l.text) = [] := by
  rw [List.eq_nil_iff_forall_not_mem]
  intro n hn
  obtain ⟨hforeign, f, hf, rfl, -⟩ := StorageTarget.mem_foreignNames_iff.1 hn
  rw [l.fields_of_query (by rw [parts_text])] at hf
  obtain ⟨p, -, rfl⟩ := List.mem_map.1 hf
  exact hforeign p.known

theorem ofLocator_text :
    StorageTarget.ofLocator (.text l.text) = .ok
      { kind := l.kind
        bucket := l.bucket
        folder := trimSlashes l.folder
        region := if l.kind = .s3 then l.last "region" else .null
        endpoint := if l.kind = .s3 then l.last "endpoint" else .null
        projectId := if l.kind = .gcs then l.last "project_id" else .null } := by
  have hquery : (parts l.text).query = String.ofList l.queryText := by rw [parts_text]
  have hauthority : (parts l.text).authority = l.bucket := by rw [parts_text]
  have hpath : (parts l.text).path = "/" ++ l.folder := by rw [parts_text]
  have hkind : BackendKind.ofScheme? (parts l.text).scheme = some l.kind := by
    rw [parts_text]
    exact l.ofScheme?_toLower
  rw [StorageTarget.ofLocator_text hkind (by rw [hauthority]; exact l.bucket_ne), hauthority,
    checkAuthority_of_plain l.bucket_plain]
  refine (if_pos rfl).trans ?_
  rw [StorageTarget.ofUrl, foreignNames_text, List.isEmpty_nil, if_pos rfl, hauthority, hpath,
    trimSlashes_slash_append]
  simp only [l.lastParameter_of_query hquery]

/-- **What `ofLocator` reads of the text of `l` is what `l` describes.** -/
theorem ofLocator_text_describes :
    ∃ t, StorageTarget.ofLocator (.text l.text) = .ok t ∧ l.Describes t := by
  have hforeign : ∀ {kind : BackendKind} {name : String},
      (l.kind ≠ kind → name ∉ knownParameters l.kind) →
        (if l.kind = kind then l.last name else .null) = l.last name := by
    intro kind name h
    split
    · rfl
    · rename_i hkind
      exact (l.last_of_foreign (h hkind)).symm
  have hknown : ∀ kind : BackendKind,
      (kind ≠ .s3 → "region" ∉ knownParameters kind ∧ "endpoint" ∉ knownParameters kind) ∧
        (kind ≠ .gcs → "project_id" ∉ knownParameters kind) := by
    intro kind
    cases kind <;> decide
  exact ⟨_, l.ofLocator_text, {
    kind := rfl
    bucket := rfl
    folder := isTrimmed_trimSlashes l.folder
    region := hforeign fun h => ((hknown l.kind).1 h).1
    endpoint := hforeign fun h => ((hknown l.kind).1 h).2
    projectId := hforeign fun h => (hknown l.kind).2 h
    fits := StorageTarget.fits_of_ofLocator l.ofLocator_text }⟩

/-- The address of a store that has a query of its own is read as it was meant, and a region that is
blank the second time is the one of the first time. -/
theorem ofLocator_nestedQuery :
    ∃ l : WrittenLocator,
      l.text = "S3://My.bucket//a//b/?region=eu%20%C3%BC" ++
        "&endpoint=http%3A%2F%2Fx%3A9000%2F%3Fa%3D1%26b%3D%25%23%F0%9F%90%B3&region=" ∧
      ∃ t, StorageTarget.ofLocator (.text l.text) = .ok t ∧ t.bucket = "My.bucket" ∧
        IsTrimmed "/a//b/" t.folder ∧ t.region = .text "eu ü" ∧
        t.endpoint = .text "http://x:9000/?a=1&b=%#🐳" := by
  let l : WrittenLocator := {
    kind := .s3
    scheme := "S3"
    bucket := "My.bucket"
    folder := "/a//b/"
    query := some [
      ⟨"region", "eu ü", _, by decide, writes_escaped _⟩,
      ⟨"endpoint", "http://x:9000/?a=1&b=%#🐳", _, by decide, writes_escaped _⟩,
      ⟨"region", "", [], by decide, .nil⟩]
    scheme_mem := by decide +kernel
    bucket_ne := by decide
    bucket_plain := List.all_eq_true.1 (by decide +kernel)
    folder_plain := List.all_eq_true.1 (by decide +kernel) }
  obtain ⟨t, ht, hdescribes⟩ := l.ofLocator_text_describes
  refine ⟨l, by decide +kernel, t, ht, hdescribes.bucket, hdescribes.folder, ?_, ?_⟩
  · rw [hdescribes.region]
    rfl
  · rw [hdescribes.endpoint]
    rfl

end WrittenLocator

end DumpKeeper
