import DumpKeeper.Proofs.Layers
import DumpKeeper.Proofs.Defects

/-!
# The choice of a store

Variables may lead from one kind of store to the other.  A target is then made from the variables of
the kind that is chosen, and nothing of the other kind goes with it: neither what the target so far
has nor what the other variables say.  So a backup never goes to the bucket of the wrong store.

* `Chooses`, `targetKind_eq_ok_iff` — the kind of store that variables choose.
* `Attribute`, `Attribute.chosen?` — what an attribute of the target comes to.
* `StorageTarget.attributes_of_override` — a target has just the attributes that it should.
* `idleVariables`, `StorageTarget.override_congr_of_chooses` — variables that do not count.
* `Config.Separates`, `Config.separates_of_built` — whatever comes from a file keeps the kinds of
  stores apart.
-/

set_option autoImplicit false

namespace DumpKeeper

open Conversion Verdict

variable {env env' : Environment} {kind : BackendKind}

/-! ## Kinds of stores -/

namespace BackendKind

/-- The names of a kind of store. -/
def spellings : BackendKind → List String
  | .s3 => ["s3"]
  | .gcs => ["gcs", "gs"]

/-- The variable with the bucket of the `kind` of store. -/
def bucketVariable (kind : BackendKind) : String := kind.capitals ++ "_BUCKET"

theorem named?_eq_some_iff {name : String} :
    named? (if name = "gs" then "gcs" else name) = some kind ↔ name ∈ kind.spellings := by
  by_cases hgs : name = "gs"
  · subst hgs
    cases kind <;> decide
  by_cases hs3 : name = "s3"
  · subst hs3
    cases kind <;> decide
  by_cases hgcs : name = "gcs"
  · subst hgcs
    cases kind <;> decide
  · rw [if_neg hgs, named?, if_neg hs3, if_neg hgcs]
    cases kind <;> simp [spellings, hgs, hs3, hgcs]

end BackendKind

/-- **The kind of store that the variables in `env` choose** beside the `current` one: the one that
is named, in any letter case; or else that of a bucket which is given, GCS before S3; or else the
`current` one. -/
inductive Chooses (env : Environment) (current : BackendKind) : BackendKind → Prop
  | named {text : String} {kind : BackendKind} (htype : given? env "STORAGE_TYPE" = some text)
      (hname : lower text ∈ kind.spellings) : Chooses env current kind
  | gcsBucket {bucket : String} (htype : given? env "STORAGE_TYPE" = none)
      (hgcs : given? env "GCS_BUCKET" = some bucket) : Chooses env current .gcs
  | s3Bucket {bucket : String} (htype : given? env "STORAGE_TYPE" = none)
      (hgcs : given? env "GCS_BUCKET" = none) (hs3 : given? env "S3_BUCKET" = some bucket) :
      Chooses env current .s3
  | silent (htype : given? env "STORAGE_TYPE" = none) (hgcs : given? env "GCS_BUCKET" = none)
      (hs3 : given? env "S3_BUCKET" = none) : Chooses env current current

/-- The kind that is asked for is the one that is chosen, by `Chooses`. -/
theorem targetKind_eq_ok_iff {current : BackendKind} :
    targetKind env current = .ok kind ↔ Chooses env current kind := by
  constructor
  · intro h
    rw [targetKind] at h
    rcases htype : given? env "STORAGE_TYPE" with _ | text
    · rcases hgcs : given? env "GCS_BUCKET" with _ | bucket
      · rcases hs3 : given? env "S3_BUCKET" with _ | bucket
        · simp only [htype, hgcs, hs3] at h
          cases h
          exact .silent htype hgcs hs3
        · simp only [htype, hgcs, hs3] at h
          cases h
          exact .s3Bucket htype hgcs hs3
      · simp only [htype, hgcs] at h
        cases h
        exact .gcsBucket htype hgcs
    · simp only [htype] at h
      split at h
      · rename_i hnamed
        cases h
        exact .named htype (BackendKind.named?_eq_some_iff.1 hnamed)
      · cases h
  · rintro (⟨htype, hname⟩ | ⟨htype, hgcs⟩ | ⟨htype, hgcs, hs3⟩ | ⟨htype, hgcs, hs3⟩)
    · rw [targetKind, htype]
      dsimp only
      rw [BackendKind.named?_eq_some_iff.2 hname]
    · rw [targetKind, htype, hgcs]
      rfl
    · rw [targetKind, htype, hgcs, hs3]
      rfl
    · rw [targetKind, htype, hgcs, hs3]
      rfl

/-! ## Attributes -/

/-- The attributes of a target, apart from its kind. -/
inductive Attribute where
  | bucket
  | folder
  | region
  | endpoint
  | projectId
  deriving DecidableEq, Repr

namespace Attribute

/-- The variable that sets an attribute, if the `kind` of store has it. -/
def variableName? (kind : BackendKind) : Attribute → Option String
  | bucket => some kind.bucketVariable
  | folder => some (kind.capitals ++ "_PREFIX")
  | region => if kind = .s3 then some "AWS_REGION" else none
  | endpoint => if kind = .s3 then some "S3_ENDPOINT" else none
  | projectId => if kind = .gcs then some "GCS_PROJECT_ID" else none

/-- An attribute of the target `t`. -/
def of (t : StorageTarget) : Attribute → Value
  | bucket => .text t.bucket
  | folder => .text t.folder
  | region => t.region
  | endpoint => t.endpoint
  | projectId => t.projectId

/-- What holds of an attribute when nothing is said.  There is no bucket then. -/
def default? : Attribute → Option Value
  | bucket => none
  | folder => some (.text defaultFolder)
  | _ => some .null

/-- **What the attribute `a` comes to** for the `kind` of store: the variable of this kind, if it is
given; or else what the target `t` has, if it is of this kind; or else the default. -/
def chosen? (env : Environment) (kind : BackendKind) (t : StorageTarget) (a : Attribute) :
    Option Value :=
  match (a.variableName? kind).bind (given? env) with
  | some text => some (.text text)
  | none => if t.kind = kind then some (a.of t) else a.default?

end Attribute

namespace StorageTarget

variable {t u : StorageTarget}

/-- Without a locator a target is made, by `ofVariables`, from the variables of the `kind` that is
chosen. -/
theorem override_of_chooses (hurl : given? env "STORAGE_URL" = none)
    (h : Chooses env t.kind kind) :
    t.override env = ofVariables env kind (if t.kind = kind then some t else none) := by
  rw [override_eq, targetKind_eq_ok_iff.2 h, hurl]
  rfl

section Said

variable {current : Option StorageTarget} {name : String}

/-- A variable, or else what `get` reads of a target, or else the text `s`. -/
theorem said_text (get : StorageTarget → String) (s : String) :
    (match given? env name with
      | some text => some (Value.text text)
      | none => current.elim (some (.text s)) fun t => some (.text (get t))) =
      some (.text ((given? env name).getD ((current.map get).getD s))) := by
  rcases given? env name with _ | _ <;> rcases current with _ | _ <;> rfl

/-- If a bucket comes out, it has been said which. -/
theorem said_bucket
    (h : ((given? env name).getD ((current.map (·.bucket)).getD "")).isEmpty ≠ true) :
    (match given? env name with
      | some text => some (Value.text text)
      | none => current.elim none fun t => some (.text t.bucket)) =
      some (.text ((given? env name).getD ((current.map (·.bucket)).getD ""))) := by
  rcases hgiven : given? env name with _ | _
  · rcases current with _ | _
    · rw [hgiven] at h
      exact absurd rfl h
    · rfl
  · rfl

/-- A variable, or else what `get` reads of a target, or else nothing. -/
theorem said_value (get : StorageTarget → Value) :
    (match given? env name with
      | some text => some (Value.text text)
      | none => current.elim (some .null) fun t => some (get t)) =
      some (orCurrent env name ((current.map get).getD .null)) := by
  rw [orCurrent]
  rcases given? env name with _ | _ <;> rcases current with _ | _ <;> rfl

/-- Nothing, where there is no variable and a target would not have what `get` reads. -/
theorem said_null {get : StorageTarget → Value} (h : ∀ t ∈ current, get t = .null) :
    (current.elim (some .null) fun t => some (get t)) = some .null := by
  rcases current with _ | t
  · rfl
  · exact congrArg some (h t rfl)

end Said

/-- **A target has just the attributes that it should**, by `chosen?`. -/
theorem attributes_of_ofVariables {current : Option StorageTarget}
    (hcurrent : current = if t.kind = kind then some t else none) (hfits : t.Fits)
    (h : ofVariables env kind current = .ok u) :
    u.kind = kind ∧ ∀ a : Attribute, a.chosen? env kind t = some (a.of u) := by
  have hkept : ∀ a : Attribute, (if t.kind = kind then some (a.of t) else a.default?) =
      current.elim a.default? fun t => some (a.of t) := by
    intro a
    rw [hcurrent]
    split <;> rfl
  have hsome : ∀ s ∈ current, s.kind = kind ∧ s.Fits := by
    rw [hcurrent]
    split
    · rintro _ ⟨⟩
      exact ⟨‹_›, hfits⟩
    · rintro _ ⟨⟩
  simp only [Attribute.chosen?, hkept]
  rw [ofVariables] at h
  split at h
  · cases h
  rename_i hbucket
  cases kind with
  | s3 =>
    cases h
    refine ⟨rfl, fun a => ?_⟩
    cases a with
    | bucket => exact said_bucket hbucket
    | folder => exact said_text _ _
    | region => exact said_value _
    | endpoint => exact said_value _
    | projectId => exact said_null fun s hs => (hsome s hs).2.projectId (hsome s hs).1
  | gcs =>
    cases h
    refine ⟨rfl, fun a => ?_⟩
    cases a with
    | bucket => exact said_bucket hbucket
    | folder => exact said_text _ _
    | region => exact said_null fun s hs => (hsome s hs).2.region (hsome s hs).1
    | endpoint => exact said_null fun s hs => (hsome s hs).2.endpoint (hsome s hs).1
    | projectId => exact said_value _

theorem attributes_of_override (hurl : given? env "STORAGE_URL" = none)
    (hchooses : Chooses env t.kind kind) (hfits : t.Fits) (h : t.override env = .ok u) :
    u.kind = kind ∧ ∀ a : Attribute, a.chosen? env kind t = some (a.of u) := by
  rw [override_of_chooses hurl hchooses] at h
  exact attributes_of_ofVariables rfl hfits h

/-- **Where the kind changes, nothing of the target `t` is left.** -/
theorem override_of_change (hurl : given? env "STORAGE_URL" = none)
    (hchooses : Chooses env t.kind kind) (hchange : t.kind ≠ kind) :
    t.override env = ofVariables env kind none := by
  rw [override_of_chooses hurl hchooses, if_neg hchange]

theorem ofVariables_none_eq_refuse (h : given? env kind.bucketVariable = none) :
    ofVariables env kind none = refuse (.bucketVariable kind) := by
  rw [BackendKind.bucketVariable] at h
  rw [ofVariables, h]
  rfl

end StorageTarget

/-! ## Variables that do not count -/

/-- **The variables that do not count** when the `kind` of store is chosen: those of the other
kind.  Its bucket counts as long as no kind is named. -/
def idleVariables (env : Environment) (kind : BackendKind) : List String :=
  kind.other.ownVariables.filter fun name =>
    name ≠ kind.other.bucketVariable ∨ (given? env "STORAGE_TYPE").isSome

/-- What counts for one kind of store, its `ownVariables`, does not count for the other. -/
theorem notMem_idleVariables_of_own {name : String} (h : name ∈ kind.ownVariables) :
    name ∉ idleVariables env kind := by
  have hapart : ∀ kind : BackendKind, ∀ name ∈ kind.ownVariables,
      name ∉ kind.other.ownVariables := by
    intro kind
    cases kind <;> decide
  exact fun hidle => hapart kind name h (List.mem_filter.1 hidle).1

/-- A bucket counts if `STORAGE_TYPE` names no kind. -/
theorem notMem_idleVariables_of_bucket (htype : given? env "STORAGE_TYPE" = none)
    (b : BackendKind) : b.bucketVariable ∉ idleVariables env kind := by
  intro hidle
  obtain ⟨hmem, hcounts⟩ := List.mem_filter.1 hidle
  have hne : b.bucketVariable ≠ kind.other.bucketVariable := by simpa [htype] using hcounts
  cases kind <;> cases b
  · exact absurd hmem (by decide)
  · exact hne rfl
  · exact hne rfl
  · exact absurd hmem (by decide)

/-- `env` and `env'` differ in `idleVariables` only. -/
def Environment.Resembles (env : Environment) (kind : BackendKind) (env' : Environment) : Prop :=
  ∀ name ∈ variableNames, name ∉ idleVariables env kind → given? env name = given? env' name

instance : Decidable (env.Resembles kind env') :=
  inferInstanceAs (Decidable (∀ name ∈ variableNames, name ∉ idleVariables env kind →
    given? env name = given? env' name))

/-- Variables that do not belong to a kind of store count in any case. -/
theorem Environment.Resembles.same (h : env.Resembles kind env') {name : String}
    (hname : name ∈ variableNames ∧
      name ∉ BackendKind.s3.ownVariables ++ BackendKind.gcs.ownVariables) :
    given? env name = given? env' name := by
  refine h name hname.1 fun hidle => hname.2 ?_
  have hother : name ∈ kind.other.ownVariables := (List.mem_filter.1 hidle).1
  cases kind with
  | s3 => exact List.mem_append_right _ hother
  | gcs => exact List.mem_append_left _ hother

/-- **The kind is chosen again** by variables `env'` that resemble those that chose it. -/
theorem Environment.Resembles.chooses {current : BackendKind} (h : env.Resembles kind env')
    (hchooses : Chooses env current kind) : Chooses env' current kind := by
  have htype : given? env "STORAGE_TYPE" = given? env' "STORAGE_TYPE" :=
    h.same (by decide)
  have hbucket : given? env "STORAGE_TYPE" = none → ∀ b : BackendKind,
      given? env b.bucketVariable = given? env' b.bucketVariable := fun hnone b =>
    h _ (by cases b <;> decide) (notMem_idleVariables_of_bucket hnone b)
  cases hchooses with
  | named hname hkind => exact .named (htype ▸ hname) hkind
  | gcsBucket hnone hgcs => exact .gcsBucket (htype ▸ hnone) (hbucket hnone .gcs ▸ hgcs)
  | s3Bucket hnone hgcs hs3 =>
    exact .s3Bucket (htype ▸ hnone) (hbucket hnone .gcs ▸ hgcs) (hbucket hnone .s3 ▸ hs3)
  | silent hnone hgcs hs3 =>
    exact .silent (htype ▸ hnone) (hbucket hnone .gcs ▸ hgcs) (hbucket hnone .s3 ▸ hs3)

theorem StorageTarget.override_congr_of_chooses {t : StorageTarget}
    (hurl : given? env "STORAGE_URL" = none) (hchooses : Chooses env t.kind kind)
    (h : env.Resembles kind env') : t.override env' = t.override env := by
  have hurl' : given? env' "STORAGE_URL" = none := by
    rw [← h.same (by decide), hurl]
  have hown : env.AgreesOn kind.ownVariables env' := by
    intro name hname
    refine h name ?_ (notMem_idleVariables_of_own hname)
    have hall : ∀ k : BackendKind, k.ownVariables ⊆ variableNames := by
      intro k
      cases k <;> decide
    exact hall kind hname
  rw [override_of_chooses hurl hchooses, override_of_chooses hurl' (h.chooses hchooses),
    ofVariables_congr hown]

/-! ## Configurations -/

namespace Config

variable {c d : Config}

/-- **The configuration `c` keeps the kinds of stores apart** when the variables in `env` are laid
over it. -/
structure Separates (c : Config) (env : Environment) : Prop where
  /-- The target is of the kind that is chosen, and each of its attributes is what it should be. -/
  chosen : ∀ d, c.override env = .ok d → ∃ kind, Chooses env c.storage.kind kind ∧
    d.storage.kind = kind ∧ ∀ a : Attribute, a.chosen? env kind c.storage = some (a.of d.storage)
  /-- A target of the other kind hands nothing on: any other one in its place does as well. -/
  forgets : ∀ kind, Chooses env c.storage.kind kind → c.storage.kind ≠ kind →
    ∀ t : StorageTarget, t.kind = c.storage.kind →
      ({ c with storage := t } : Config).override env = c.override env
  /-- The variables of the other kind may be anything. -/
  apart : ∀ kind, Chooses env c.storage.kind kind → ∀ env', env.Resembles kind env' →
    c.override env' = c.override env
  /-- Without a bucket of the kind that is chosen there is no target.  It is refused, unless a
  variable of the node or of the backups, which are looked at before, breaks. -/
  refused : ∀ kind, Chooses env c.storage.kind kind → c.storage.kind ≠ kind →
    given? env kind.bucketVariable = none →
      (∀ d, c.override env ≠ .ok d) ∧
      ((∃ e, c.override env = .error (.refused e)) ↔
        ¬Breaking (RedisSettings.variableLooks env ++ BackupSettings.variableLooks env)) ∧
      ((∃ r b, c.redis.override env = .ok r ∧ c.backup.override env = .ok b) →
        c.override env = .error (.refused (.bucketVariable kind)))

/-- The other sections do not look at the target `t`. -/
theorem override_of_storage {t : StorageTarget} (h : t.override env = c.storage.override env) :
    ({ c with storage := t } : Config).override env = c.override env := by
  rw [override, override, h]

theorem override_of_resembles (hurl : given? env "STORAGE_URL" = none)
    (hchooses : Chooses env c.storage.kind kind) (h : env.Resembles kind env') :
    c.override env' = c.override env := by
  have hrest : ∀ {names : List String},
      (∀ name ∈ names, name ∈ variableNames ∧
        name ∉ BackendKind.s3.ownVariables ++ BackendKind.gcs.ownVariables) →
      env'.AgreesOn names env := fun hnames name hname => (h.same (hnames name hname)).symm
  rw [override, override, RedisSettings.override_congr (hrest (by decide)),
    BackupSettings.override_congr (hrest (by decide)),
    StorageTarget.override_congr_of_chooses hurl hchooses h,
    RetentionSettings.override_congr (hrest (by decide)),
    LoggingSettings.override_congr (hrest (by decide)),
    MetricsSettings.override_congr (hrest (by decide))]

/-- **What is seen where a target is refused**: what is looked at before, and then the refusal
`e`. -/
theorem verdictOf_override_of_refused {e : ConfigError}
    (h : c.storage.override env = refuse e) :
    verdictOf (c.override env) =
      ofLooks ((RedisSettings.variableLooks env ++ BackupSettings.variableLooks env) ++
        [.check false]) := by
  rw [override, List.append_assoc]
  refine verdictOf_looks_bind (RedisSettings.verdictOf_override _ _) fun _ => ?_
  refine verdictOf_looks_bind (BackupSettings.verdictOf_override _ _) fun _ => ?_
  rw [h]
  rfl

/-- A target without a bucket, refused by `bucketVariable`, is refused unless something before it
breaks. -/
theorem refused_of_bucketVariable (h : c.storage.override env = refuse (.bucketVariable kind)) :
    (∀ d, c.override env ≠ .ok d) ∧
      ((∃ e, c.override env = .error (.refused e)) ↔
        ¬Breaking (RedisSettings.variableLooks env ++ BackupSettings.variableLooks env)) ∧
      ((∃ r b, c.redis.override env = .ok r ∧ c.backup.override env = .ok b) →
        c.override env = .error (.refused (.bucketVariable kind))) := by
  have hverdict := verdictOf_override_of_refused h
  have hcheck : ofLooks [.check false] = .refused := rfl
  rw [ofLooks_append, hcheck] at hverdict
  rw [← ofLooks_eq_broken_iff]
  generalize ofLooks (RedisSettings.variableLooks env ++ BackupSettings.variableLooks env) = v
    at hverdict ⊢
  refine ⟨fun d hd => ?_, ⟨?_, fun hv => ?_⟩, ?_⟩
  · rw [hd] at hverdict
    cases v <;> cases hverdict
  · rintro ⟨e, he⟩ rfl
    rw [he] at hverdict
    cases hverdict
  · have hrefused : verdictOf (c.override env) = .refused := by
      cases v with
      | broken => exact absurd rfl hv
      | _ => exact hverdict
    exact verdictOf_eq_refused_iff.1 hrefused
  · rintro ⟨r, b, hr, hb⟩
    rw [override, hr, hb, h]
    rfl

/-- **Whatever comes from a file keeps the kinds of stores apart**, by `Separates`, as long as the
variables have no locator. -/
theorem separates_of_built {raw : Entries} (h : built raw = .ok c)
    (hurl : given? env "STORAGE_URL" = none) : c.Separates env where
  chosen d hd := by
    have hstorage := (override_eq_ok_iff.1 hd).1 .storage
    obtain ⟨kind, hkind, -⟩ := bind_eq_ok_iff.1 hstorage
    have hchooses := targetKind_eq_ok_iff.1 hkind
    exact ⟨kind, hchooses, StorageTarget.attributes_of_override hurl hchooses
      (isSettled_of_built h).fits hstorage⟩
  forgets kind hchooses hchange t ht := by
    refine override_of_storage ?_
    rw [StorageTarget.override_of_change hurl hchooses hchange,
      StorageTarget.override_of_change hurl (ht ▸ hchooses) (ht ▸ hchange)]
  apart kind hchooses env' henv := override_of_resembles hurl hchooses henv
  refused kind hchooses hchange hbucket := by
    refine refused_of_bucketVariable ?_
    rw [StorageTarget.override_of_change hurl hchooses hchange,
      StorageTarget.ofVariables_none_eq_refuse hbucket]

/-- A file with a region and an endpoint. -/
def regionSettings : Entries :=
  [(.text "storage",
    .map [(.text "bucket", .text "b"), (.text "prefix", .text "p"), (.text "region", .text "eu"),
      (.text "endpoint", .text "http://x")])]

/-- Variables that name the other kind of store, in capitals, and give it a bucket. -/
def turnedVariables : Environment :=
  [("STORAGE_TYPE", "GS"), ("GCS_BUCKET", "g"), ("S3_PREFIX", "q")]

/-- No region of the target in the file is left then, and other variables of its kind do not
matter. -/
theorem separates_regionSettings :
    built regionSettings = .ok (orDefault (built regionSettings)) ∧
      (orDefault (built regionSettings)).storage.kind = .s3 ∧
      given? turnedVariables "STORAGE_URL" = none ∧
      ∃ d, (orDefault (built regionSettings)).override turnedVariables = .ok d ∧
        d.storage.kind = .gcs ∧ d.storage.region = .null ∧
        (orDefault (built regionSettings)).override
          [("S3_BUCKET", "c"), ("STORAGE_TYPE", "GS"), ("GCS_BUCKET", "g")] = .ok d := by
  have hok : built regionSettings = .ok (orDefault (built regionSettings)) :=
    eq_ok_orDefault (by decide +kernel)
  have hkind : (orDefault (built regionSettings)).storage.kind = .s3 := by decide +kernel
  have hurl : given? turnedVariables "STORAGE_URL" = none := by decide
  have htype : given? turnedVariables "STORAGE_TYPE" = some "GS" := by decide
  have hchooses : Chooses turnedVariables (orDefault (built regionSettings)).storage.kind .gcs :=
    .named htype (by decide +kernel)
  have hd := eq_ok_orDefault (e := (orDefault (built regionSettings)).override turnedVariables)
    (by decide +kernel)
  have hsep := separates_of_built hok hurl
  obtain ⟨kind, hchosen, rfl, hattributes⟩ := hsep.chosen _ hd
  have hgcs := Except.ok.inj
    ((targetKind_eq_ok_iff.2 hchosen).symm.trans (targetKind_eq_ok_iff.2 hchooses))
  have hregion := hattributes .region
  rw [hgcs, Attribute.chosen?, hkind] at hregion
  exact ⟨hok, hkind, hurl, _, hd, hgcs, (Option.some.inj hregion).symm,
    (hsep.apart .gcs hchooses _ (by decide +kernel)).trans hd⟩

/-- Variables that ask for a kind of store without a bucket, and for a duration out of range. -/
def hastyVariables : Environment :=
  [("STORAGE_TYPE", "gcs"), ("BACKUP_INTERVAL", "1000000000d")]

/-- **A bucket that is missing is not refused if a duration is out of range**: `override` does not
look at the target then. -/
theorem not_refused_hastyVariables :
    (∃ c, built [] = .ok c ∧ c.storage.kind = .s3 ∧
      c.override hastyVariables = .error (.broken .outOfRange)) ∧
      ¬∀ (raw : Entries) (c : Config) (env : Environment) (kind : BackendKind),
        built raw = .ok c → given? env "STORAGE_URL" = none → Chooses env c.storage.kind kind →
          c.storage.kind ≠ kind → given? env kind.bucketVariable = none →
            ∃ e, c.override env = .error (.refused e) := by
  have hok := eq_ok_orDefault (e := built []) (by decide +kernel)
  have hkind : (orDefault (built [])).storage.kind = .s3 := by decide +kernel
  have hbroken : (orDefault (built [])).override hastyVariables = .error (.broken .outOfRange) :=
    eq_error_of_failure? (by decide +kernel)
  have htype : given? hastyVariables "STORAGE_TYPE" = some "gcs" := by decide
  refine ⟨⟨_, hok, hkind, hbroken⟩, fun h => ?_⟩
  obtain ⟨e, he⟩ := h [] _ hastyVariables .gcs hok (by decide) (.named htype (by decide +kernel))
    (by rw [hkind]; decide) (by decide)
  cases hbroken.symm.trans he

end Config

end DumpKeeper
