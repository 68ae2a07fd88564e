import DumpKeeper.Proofs.Loading

/-!
# Foreign parameters of a locator

The query of a locator has room for the settings of one kind of store.  A parameter that is foreign
to it is refused, so that a setting that is misspelled or misplaced does not pass unseen.  One
spelling does pass: a parameter without a value is dropped before its name is looked at.

* `Url.parts`, `Url.split_eq` — the parts of a text, whether or not its host is one that there can
  be.
* `Url.Field`, `Url.fields` — the parameters of a query, those without a value included.
  `Url.parameters_eq` tells which of them are looked at.
* `StorageTarget.ofUrl`, `StorageTarget.ofLocator_text` — what becomes of a locator, in terms of its
  parts.
* `StorageTarget.foreign_refused_iff` — when a locator with a foreign parameter is refused.
-/

set_option autoImplicit false

namespace DumpKeeper

open Conversion

namespace Url

/-! ## Parts -/

/-- What stands behind a scheme, cut into the authority, if there is one, and the rest. -/
def cutAuthority (cs : List Char) : List Char × List Char :=
  match cs with
  | '/' :: '/' :: cs =>
    let authority := cs.takeWhile fun c => !(c == '/' || c == '?' || c == '#')
    (authority, cs.drop authority.length)
  | _ => ([], cs)

/-- The parts of a text, once `cs` is all that can be seen of it. -/
def partsOf (cs : List Char) : Url :=
  let (scheme, rest) := cutScheme cs
  let (authority, rest) := cutAuthority rest
  let (path, query) := cutAt '?' (cutAt '#' rest).1
  ⟨String.ofList scheme, String.ofList authority, String.ofList path, String.ofList query⟩

/-- The parts of the text `s`, whether or not its authority is one that there can be. -/
def parts (s : String) : Url :=
  partsOf ((s.toList.dropWhile fun c => c.toNat ≤ 32).filter fun c =>
    !(c == '\t' || c == '\r' || c == '\n'))

theorem authority_partsOf (cs : List Char) :
    (partsOf cs).authority.toList = (cutAuthority (cutScheme cs).2).1 := String.toList_ofList

/-- **The text `s` is a locator** if its authority is one that there can be; `parts s` are its parts
then. -/
theorem split_eq (s : String) :
    split s = (checkAuthority (parts s).authority.toList).map fun _ => parts s := by
  rw [parts, authority_partsOf]
  change (checkAuthority (cutAuthority (cutScheme _).2).1 >>= fun _ => _) = _
  rcases checkAuthority _ with f | u
  · rfl
  · rfl

/-! ## Fields -/

/-- A parameter of a query: its `name`, with escapes resolved, and its value as it is `written`. -/
structure Field where
  name : String
  written : List Char
  deriving DecidableEq, Repr

/-- A value is given for `f`, if only a blank one. -/
def Field.HasValue (f : Field) : Prop := f.written ≠ []

instance (f : Field) : Decidable f.HasValue := inferInstanceAs (Decidable (f.written ≠ []))

/-- The name and the value of a piece of a query.  Without an equals sign, all of it is the name. -/
def fieldOf (piece : List Char) : Field :=
  ⟨unescapeField (cutAt '=' piece).1, (cutAt '=' piece).2⟩

/-- The parameters in the query of `u`. -/
def fields (u : Url) : List Field :=
  ((u.query.toList.splitOn '&').filter (· ≠ [])).map fieldOf

/-- **The parameters that are looked at** are those of `fields` with a value. -/
theorem parameters_eq (u : Url) :
    u.parameters =
      (u.fields.filter fun f => f.HasValue).map fun f => (f.name, unescapeField f.written) := by
  rw [parameters, fields]
  generalize u.query.toList.splitOn '&' = pieces
  induction pieces with
  | nil => rfl
  | cons piece pieces ih =>
    rw [List.filterMap_cons, ih]
    by_cases hpiece : piece = []
    · subst hpiece
      rfl
    rw [List.filter_cons_of_pos (by simpa using hpiece), List.map_cons]
    by_cases hvalue : (fieldOf piece).HasValue
    · rw [List.filter_cons_of_pos (by simpa using hvalue), List.map_cons]
      have hgiven : (cutAt '=' piece).2.isEmpty = false := List.isEmpty_eq_false_iff.2 hvalue
      dsimp only
      rw [hgiven]
      rfl
    · rw [List.filter_cons_of_neg (by simpa using hvalue)]
      have hblank : (cutAt '=' piece).2 = [] := Decidable.not_not.1 hvalue
      dsimp only
      rw [hblank]
      rfl

end Url

namespace StorageTarget

open Url

/-! ## Targets -/

/-- The names that are foreign to the `kind` of store, among those of the parameters with a
value. -/
def foreignNames (kind : BackendKind) (u : Url) : List String :=
  ((u.fields.filter fun f => f.HasValue).map (·.name)).filter fun n =>
    !(knownParameters kind).contains n

theorem mem_foreignNames_iff {kind : BackendKind} {u : Url} {n : String} :
    n ∈ foreignNames kind u ↔
      n ∉ knownParameters kind ∧ ∃ f ∈ u.fields, f.name = n ∧ f.HasValue := by
  simp only [foreignNames, List.mem_filter, List.mem_map, Bool.not_eq_true', List.contains_eq_mem,
    decide_eq_false_iff_not, decide_eq_true_eq]
  constructor
  · rintro ⟨⟨f, ⟨hf, hvalue⟩, hn⟩, hforeign⟩
    exact ⟨hforeign, f, hf, hn, hvalue⟩
  · rintro ⟨hforeign, f, hf, hn, hvalue⟩
    exact ⟨⟨f, ⟨hf, hvalue⟩, hn⟩, hforeign⟩

/-- The target of the `kind` that the parts `u` of a locator describe. -/
def ofUrl (kind : BackendKind) (u : Url) : Except ConfigFailure StorageTarget :=
  if (foreignNames kind u).isEmpty then
    .ok { kind := kind
          bucket := u.authority
          folder := trimSlashes u.path
          region := if kind = .s3 then lastParameter u.parameters "region" else .null
          endpoint := if kind = .s3 then lastParameter u.parameters "endpoint" else .null
          projectId := if kind = .gcs then lastParameter u.parameters "project_id" else .null }
  else refuse (.unknownParameters kind (sortedNames (foreignNames kind u)))

variable {s : String} {kind : BackendKind}

/-- **What becomes of the locator `s`** with a scheme that is known and a bucket. -/
theorem ofLocator_text (hkind : BackendKind.ofScheme? (parts s).scheme = some kind)
    (hbucket : (parts s).authority ≠ "") :
    ofLocator (.text s) =
      if (checkAuthority (parts s).authority.toList).isOk then ofUrl kind (parts s)
      else .error (.broken .badHost) := by
  have hforeign : ((parts s).parameters.map (·.1)).filter
      (fun n => !(knownParameters kind).contains n) = foreignNames kind (parts s) := by
    rw [parameters_eq, List.map_map]
    rfl
  have hempty : (parts s).authority.isEmpty = false := by
    rw [← Bool.not_eq_true, String.isEmpty_iff]
    exact hbucket
  rw [ofLocator]
  change (pure s >>= _) = _
  rw [pure_bind]
  rw [split_eq]
  rcases checkAuthority (parts s).authority.toList with f | _
  · rfl
  · dsimp only [Except.map]
    rw [hkind]
    dsimp only
    rw [hempty, hforeign, if_neg Bool.false_ne_true, ofUrl]
    exact (if_pos rfl).symm

/-- A refusal for foreign names tells each of `names`. -/
theorem mem_sortedNames {names : List String} {n : String} :
    n ∈ sortedNames names ↔ n ∈ names := by
  rw [sortedNames, List.mem_mergeSort, List.mem_eraseDups]

/-- A target is refused just for its `foreignNames`. -/
theorem ofUrl_eq_refused_iff {u : Url} {e : ConfigError} :
    ofUrl kind u = .error (.refused e) ↔
      (∃ n, n ∈ foreignNames kind u) ∧
        e = .unknownParameters kind (sortedNames (foreignNames kind u)) := by
  rw [ofUrl]
  rcases foreignNames kind u with _ | ⟨n, names⟩
  · exact iff_of_false (by rintro ⟨⟩) (by rintro ⟨⟨_, ⟨⟩⟩, -⟩)
  · constructor
    · rintro ⟨⟩
      exact ⟨⟨n, List.mem_cons_self⟩, rfl⟩
    · rintro ⟨-, rfl⟩
      rfl

/-- **When the locator `s` is refused for a foreign parameter**: just when its host is one that
there can be, and some parameter that is not among the `knownParameters` has a value.  All of these
are named then.  Foreign parameters that have no value pass. -/
theorem foreign_refused_iff (hkind : BackendKind.ofScheme? (parts s).scheme = some kind)
    (hbucket : (parts s).authority ≠ "") :
    ((∃ e, ofLocator (.text s) = .error (.refused e)) ↔
      checkAuthority (parts s).authority.toList = .ok () ∧
        ∃ f ∈ (parts s).fields, f.name ∉ knownParameters kind ∧ f.HasValue) ∧
    (∀ e, ofLocator (.text s) = .error (.refused e) →
      ∃ names, e = .unknownParameters kind names ∧ ∀ n, n ∈ names ↔
        n ∉ knownParameters kind ∧ ∃ f ∈ (parts s).fields, f.name = n ∧ f.HasValue) ∧
    (checkAuthority (parts s).authority.toList = .ok () →
      (∀ f ∈ (parts s).fields, f.name ∉ knownParameters kind → ¬f.HasValue) →
        ∃ t, ofLocator (.text s) = .ok t) := by
  have hnames : (∃ n, n ∈ foreignNames kind (parts s)) ↔
      ∃ f ∈ (parts s).fields, f.name ∉ knownParameters kind ∧ f.HasValue := by
    simp only [mem_foreignNames_iff]
    constructor
    · rintro ⟨_, hforeign, f, hf, rfl, hvalue⟩
      exact ⟨f, hf, hforeign, hvalue⟩
    · rintro ⟨f, hf, hforeign, hvalue⟩
      exact ⟨f.name, hforeign, f, hf, rfl, hvalue⟩
  rw [ofLocator_text hkind hbucket, ← hnames]
  rcases checkAuthority (parts s).authority.toList with fault | ⟨⟩
  · refine ⟨iff_of_false ?_ ?_, ?_, ?_⟩
    · rintro ⟨_, ⟨⟩⟩
    · rintro ⟨⟨⟩, -⟩
    · rintro _ ⟨⟩
    · rintro ⟨⟩
  have hok : (Except.ok () : Except UrlFault Unit).isOk = true := rfl
  simp only [if_pos hok, ofUrl_eq_refused_iff, true_and]
  refine ⟨⟨fun ⟨_, hn, _⟩ => hn, fun hn => ⟨_, hn, rfl⟩⟩, ?_, fun _ hblank => ?_⟩
  · rintro _ ⟨-, rfl⟩
    exact ⟨_, rfl, fun n => mem_sortedNames.trans mem_foreignNames_iff⟩
  · have hnone : foreignNames kind (parts s) = [] := by
      refine List.eq_nil_iff_forall_not_mem.2 fun n hn => ?_
      obtain ⟨f, hf, hforeign, hvalue⟩ := hnames.1 ⟨n, hn⟩
      exact hblank f hf hforeign hvalue
    rw [ofUrl, hnone]
    exact ⟨_, rfl⟩

/-- A region that is misspelled is refused if it is given, also beside one that is not. -/
theorem foreign_refused_regoin :
    BackendKind.ofScheme? (parts "S3://bucket/p?region=eu&%72egoin=us").scheme = some .s3 ∧
      (parts "S3://bucket/p?region=eu&%72egoin=us").authority = "bucket" ∧
      ∃ e, ofLocator (.text "S3://bucket/p?region=eu&%72egoin=us") = .error (.refused e) := by
  have hkind : BackendKind.ofScheme? (parts "S3://bucket/p?region=eu&%72egoin=us").scheme =
      some .s3 := by decide +kernel
  have hbucket : (parts "S3://bucket/p?region=eu&%72egoin=us").authority = "bucket" := by
    decide +kernel
  have hfield : ⟨"regoin", ['u', 's']⟩ ∈ (parts "S3://bucket/p?region=eu&%72egoin=us").fields := by
    decide +kernel
  have hhost : checkAuthority (parts "S3://bucket/p?region=eu&%72egoin=us").authority.toList =
      .ok () := by
    rw [hbucket]
    rfl
  exact ⟨hkind, hbucket, (foreign_refused_iff hkind (by rw [hbucket]; decide)).1.2
    ⟨hhost, _, hfield, by decide, by decide⟩⟩

/-- **A region that is misspelled passes if it is blank**, and the target that `ofLocator` makes is
without a region. -/
theorem accepted_blankForeign :
    (∃ t, ofLocator (.text "s3://bucket/p?regoin=") = .ok t) ∧
      ¬∀ s kind, BackendKind.ofScheme? (parts s).scheme = some kind → (parts s).authority ≠ "" →
        (∃ f ∈ (parts s).fields, f.name ∉ knownParameters kind) →
          ∃ e, ofLocator (.text s) = .error (.refused e) := by
  have hkind : BackendKind.ofScheme? (parts "s3://bucket/p?regoin=").scheme = some .s3 := by
    decide +kernel
  have hbucket : (parts "s3://bucket/p?regoin=").authority ≠ "" := by decide +kernel
  have hfield : ⟨"regoin", []⟩ ∈ (parts "s3://bucket/p?regoin=").fields := by decide +kernel
  have hok : ∃ t, ofLocator (.text "s3://bucket/p?regoin=") = .ok t := ⟨_, rfl⟩
  refine ⟨hok, fun h => ?_⟩
  obtain ⟨t, ht⟩ := hok
  obtain ⟨e, he⟩ := h _ .s3 hkind hbucket ⟨_, hfield, by decide⟩
  cases ht.symm.trans he

end StorageTarget

end DumpKeeper
