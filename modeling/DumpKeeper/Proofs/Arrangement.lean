import Mathlib.Logic.Relation
import DumpKeeper.Proofs.Layers
import DumpKeeper.Proofs.Parallel

/-!
# Files that say the same

The same settings can be written down in many ways: in any order, with sections and settings left
out or left empty, and among others that mean nothing to the program.  None of that makes a
difference to the configuration, to what is noted while it is built, or to the reason for which it
is refused.

* `ConfigSection.settingNames` — the names that have a meaning in a section.
* `ConfigSection.Edit`, `Entries.Edit` — one change of a section or of a mapping that makes no
  difference; `Entries.Rearranged` is any number of them, there and back.
* `ConfigSection.seen` — all that is seen of a section.  An edit does not change it (`seen_edit`),
  and a configuration is built of nothing else (`Config.build_congr`).
* `Config.build_of_rearranged` — rearranged files are built alike.
-/

set_option autoImplicit false

namespace DumpKeeper

open Conversion

/-! ## Entries by their names -/

/-- No text is the name of two entries of `es`, as is the case in every mapping. -/
def Entries.NamedOnce (es : Entries) : Prop :=
  es.Pairwise fun a b => ∀ name, a.1 = .text name → b.1 ≠ .text name

namespace Value

variable {es fs : Entries} {name : String} {k v : Value}

theorem lookup?_cons_text (name : String) (v : Value) (es : Entries) :
    lookup? name ((.text name, v) :: es) = some v := by
  simp [lookup?]

theorem lookup?_cons_of_ne (h : k ≠ .text name) (v : Value) (es : Entries) :
    lookup? name ((k, v) :: es) = lookup? name es := by
  rw [lookup?, lookup?, List.find?_cons_of_neg]
  cases k with
  | text s => simpa using h
  | _ => simp

/-- What `name` stands for in `es` is the value of its entry, if there is but one. -/
theorem lookup?_eq_some_iff (h : es.NamedOnce) :
    lookup? name es = some v ↔ (.text name, v) ∈ es := by
  induction es with
  | nil => simp [lookup?]
  | cons e rest ih =>
    obtain ⟨k, u⟩ := e
    obtain ⟨hfirst, hrest⟩ := List.pairwise_cons.1 h
    by_cases hk : k = .text name
    · subst hk
      rw [lookup?_cons_text, Option.some.injEq, List.mem_cons, Prod.mk.injEq, eq_comm (a := u)]
      refine ⟨fun hv => .inl ⟨rfl, hv⟩, fun hv => hv.elim (·.2) fun hmem => ?_⟩
      exact absurd rfl (hfirst _ hmem name rfl)
    · rw [lookup?_cons_of_ne hk, ih hrest, List.mem_cons, Prod.mk.injEq]
      exact ⟨.inr, fun hv => hv.elim (fun hv => absurd hv.1.symm hk) id⟩

theorem lookup?_perm (h : es.Perm fs) (hes : es.NamedOnce) (name : String) :
    lookup? name es = lookup? name fs := by
  have hfs : fs.NamedOnce := h.pairwise hes fun hab name hb ha => hab name ha hb
  refine Option.ext fun v => ?_
  rw [lookup?_eq_some_iff hes, lookup?_eq_some_iff hfs, h.mem_iff]

end Value

section Given

open Classical

variable {es raw : Entries} {name : String} {v : Value}

/-- The settings of the section `name`, if it is a mapping, are those that are not left empty. -/
theorem settingsOf_of_lookup? (h : Value.lookup? name raw = some (.map es)) :
    settingsOf raw name = .ok (es.filter fun e => e.2 ≠ .null) := by
  rw [settingsOf, h]
  cases es with
  | nil => rfl
  | cons e rest =>
    refine congrArg Except.ok (List.filter_congr fun e _ => ?_)
    obtain ⟨k, v⟩ := e
    cases v <;> simp

theorem Value.lookup?_filter_of_ne_null (h : lookup? name es = some v) (hv : v ≠ .null) :
    lookup? name (es.filter fun e => e.2 ≠ .null) = some v := by
  induction es with
  | nil => exact h
  | cons e rest ih =>
    obtain ⟨k, u⟩ := e
    by_cases hk : k = .text name
    · subst hk
      rw [lookup?_cons_text, Option.some.injEq] at h
      subst h
      rw [List.filter_cons_of_pos (by simpa using hv), lookup?_cons_text]
    · rw [lookup?_cons_of_ne hk] at h
      rw [List.filter_cons]
      split
      · rw [lookup?_cons_of_ne hk, ih h]
      · exact ih h

end Given

/-! ## Edits -/

namespace ConfigSection

/-- The name of the section `s` in a file, such as `"redis"`. -/
def name : ConfigSection → String
  | redis => "redis"
  | backup => "backup"
  | storage => "storage"
  | retention => "retention"
  | logging => "logging"
  | metrics => "metrics"

/-- The names of the settings that are read in a section; a setting by another name has no meaning
there. -/
def settingNames : ConfigSection → List String
  | redis => ["connection_string", "data_path", "node_name", "backup_master", "backup_replica"]
  | backup => ["interval", "dump_filename", "initial_delay", "storage_url"]
  | storage => ["type", "bucket", "prefix", "region", "endpoint", "project_id"]
  | retention => ["keep_last", "keep_duration"]
  | logging => ["format", "level", "file"]
  | metrics => ["enabled", "port", "listen_address"]

theorem name_injective : Function.Injective name := by
  intro s t h
  cases s <;> cases t <;> first | rfl | exact absurd h (by decide)

/-- One change of the settings of the section `s` that makes no difference: `s.Edit es fs` leads
from the settings `es` to `fs`. -/
inductive Edit (s : ConfigSection) : Entries → Entries → Prop
  /-- The settings are put in another order. -/
  | reorder {es fs : Entries} (once : es.NamedOnce) (perm : es.Perm fs) : s.Edit es fs
  /-- A setting that is left empty is taken out. -/
  | dropEmpty (k : Value) (es : Entries) : s.Edit ((k, .null) :: es) es
  /-- A setting that has no meaning is taken out. -/
  | dropUnknown {k : Value} (unknown : ∀ n ∈ s.settingNames, k ≠ .text n) (v : Value)
      (es : Entries) : s.Edit ((k, v) :: es) es

end ConfigSection

/-- The mapping `raw` gives a locator, `storage_url` in its section `backup`, and one that is not
empty. -/
def Entries.GivesLocator (raw : Entries) : Prop :=
  ∃ es v, Value.lookup? "backup" raw = some (.map es) ∧
    Value.lookup? "storage_url" es = some v ∧ v.truthy = true

/-- One change of a whole file that makes no difference: of its sections, or of the settings in one
of them. -/
inductive Entries.Edit : Entries → Entries → Prop
  /-- The sections are put in another order. -/
  | reorder {raw raw' : Entries} (once : raw.NamedOnce) (perm : raw.Perm raw') : Edit raw raw'
  /-- A section that has no meaning is taken out. -/
  | dropUnknown {k : Value} (unknown : ∀ s : ConfigSection, k ≠ .text s.name) (v : Value)
      (raw : Entries) : Edit ((k, v) :: raw) raw
  /-- A section that is left empty, or that has no settings, is taken out. -/
  | dropEmpty (s : ConfigSection) {v : Value} (empty : v = .null ∨ v = .map []) {raw : Entries}
      (once : Value.lookup? s.name raw = none) : Edit ((.text s.name, v) :: raw) raw
  /-- The settings of a section are changed. -/
  | inside (s : ConfigSection) {es fs : Entries} (change : s.Edit es fs) (raw : Entries) :
      Edit ((.text s.name, .map es) :: raw) ((.text s.name, .map fs) :: raw)
  /-- Where a locator is given, the settings of the target are changed in any way. -/
  | unread {raw : Entries} (given : raw.GivesLocator) (es fs : Entries) :
      Edit ((.text "storage", .map es) :: raw) ((.text "storage", .map fs) :: raw)

/-- `raw` and `raw'` come from one another by any number of edits, there and back. -/
def Entries.Rearranged : Entries → Entries → Prop := Relation.EqvGen Entries.Edit

/-! ## What is seen of a section -/

namespace ConfigSection

variable {s t : ConfigSection} {raw raw' es fs : Entries} {k v : Value}

/-- `es` and `fs` say the same by each of the `settingNames` of the section `s`. -/
def SameSettings (s : ConfigSection) (es fs : Entries) : Prop :=
  ∀ n ∈ s.settingNames, Value.lookup? n es = Value.lookup? n fs

/-- What `raw` says in the section `s`, by each of its `settingNames` in their order; or why `raw`
has no such section. -/
def view (s : ConfigSection) (raw : Entries) : Except ConfigFailure (List (Option Value)) :=
  (settingsOf raw s.name).map fun es => s.settingNames.map fun n => Value.lookup? n es

/-- Sections with the same `view` are refused alike, or have the same settings. -/
theorem agree_of_view (h : s.view raw = s.view raw') :
    Agree s.SameSettings (settingsOf raw s.name) (settingsOf raw' s.name) :=
  (Agree.of_map (.of_eq h)).mono fun _ _ => List.map_inj_left.1

theorem view_congr (h : Value.lookup? s.name raw = Value.lookup? s.name raw') :
    s.view raw = s.view raw' := by
  rw [view, view, settingsOf_congr h]

theorem view_cons_of_ne (h : k ≠ .text s.name) : s.view ((k, v) :: raw) = s.view raw :=
  view_congr (Value.lookup?_cons_of_ne h v raw)

open Classical in
theorem view_cons (s : ConfigSection) (es raw : Entries) :
    s.view ((.text s.name, .map es) :: raw) =
      .ok (s.settingNames.map fun n => Value.lookup? n (es.filter fun e => e.2 ≠ .null)) := by
  rw [view, settingsOf_of_lookup? (Value.lookup?_cons_text _ _ _)]
  rfl

open Classical in
/-- An edit of the section `s` leaves what has a meaning in it. -/
theorem Edit.sameSettings (h : s.Edit es fs) :
    s.SameSettings (es.filter fun e => e.2 ≠ .null) (fs.filter fun e => e.2 ≠ .null) := by
  intro n hn
  cases h with
  | reorder once perm => exact Value.lookup?_perm (perm.filter _) (once.filter _) n
  | dropEmpty k => rw [List.filter_cons_of_neg (by simp)]
  | dropUnknown unknown v =>
    rw [List.filter_cons]
    split
    · exact Value.lookup?_cons_of_ne (unknown n hn) _ _
    · rfl

end ConfigSection

/-- Whether `Config.build` takes its target from a locator in `raw`: the section `backup` can be
read, and its `storage_url` is not empty. -/
def Entries.locatorGiven (raw : Entries) : Bool :=
  ((settingsOf raw "backup").map fun es =>
    (setting es "storage_url" .null).truthy).toOption.getD false

namespace ConfigSection

variable {s t : ConfigSection} {raw raw' es fs : Entries} {v : Value}

/-- All that `Config.build` sees of the section `s` of `raw`.  Where a locator is given, nothing is
seen of `storage` but whether it is a section. -/
def seen (s : ConfigSection) (raw : Entries) : Except ConfigFailure (List (Option Value)) :=
  if s = .storage ∧ raw.locatorGiven = true then (s.view raw).map fun _ => [] else s.view raw

/-- Whether a locator is given is seen in the `view` of the backup section. -/
theorem locatorGiven_congr (h : backup.view raw = backup.view raw') :
    raw.locatorGiven = raw'.locatorGiven := by
  have hsame := (agree_of_view h).map (Q := Eq) fun es fs hes =>
    congrArg Value.truthy (setting_congr (hes "storage_url" (by decide)) .null)
  exact congrArg (fun x => x.toOption.getD false) hsame.eq

theorem seen_congr (h : ∀ s : ConfigSection, s.view raw = s.view raw') :
    s.seen raw = s.seen raw' := by
  rw [seen, seen, locatorGiven_congr (h .backup), h s]

/-! ### Edits are not seen -/

theorem view_cons_empty (hv : v = .null ∨ v = .map []) (h : Value.lookup? s.name raw = none) :
    s.view ((.text s.name, v) :: raw) = s.view raw := by
  have hleft : settingsOf ((.text s.name, v) :: raw) s.name = .ok [] := by
    rw [settingsOf, Value.lookup?_cons_text]
    rcases hv with rfl | rfl <;> rfl
  have hright : settingsOf raw s.name = .ok [] := by rw [settingsOf, h]
  rw [view, view, hleft, hright]

theorem Edit.view_cons (h : t.Edit es fs) :
    t.view ((.text t.name, .map es) :: raw) = t.view ((.text t.name, .map fs) :: raw) := by
  rw [ConfigSection.view_cons, ConfigSection.view_cons]
  exact congrArg Except.ok (List.map_congr_left h.sameSettings)

/-- What is done to the section `t` is not seen in another one, `s`. -/
theorem view_cons_of_name_ne (h : s ≠ t) (v : Value) (raw : Entries) :
    s.view ((.text t.name, v) :: raw) = s.view raw :=
  view_cons_of_ne fun hname => h (name_injective (Value.text.inj hname).symm)

end ConfigSection

theorem Entries.GivesLocator.locatorGiven {raw : Entries} (h : raw.GivesLocator) :
    raw.locatorGiven = true := by
  obtain ⟨es, v, hes, hv, htruthy⟩ := h
  have hnull : v ≠ .null := by
    rintro rfl
    exact absurd htruthy (by decide)
  rw [Entries.locatorGiven, settingsOf_of_lookup? hes]
  show (setting _ "storage_url" .null).truthy = true
  rw [setting, Value.lookup?_filter_of_ne_null hv hnull]
  exact htruthy

/-- Where a locator is given, it is not `seen` what the settings `es` of the target are. -/
theorem Entries.GivesLocator.seen_target {raw : Entries} (h : raw.GivesLocator) (es : Entries)
    (s : ConfigSection) : s.seen ((.text "storage", .map es) :: raw) =
      if s = .storage then .ok [] else s.view raw := by
  have hothers : ∀ t, t ≠ ConfigSection.storage →
      t.view ((.text "storage", .map es) :: raw) = t.view raw := fun t ht =>
    ConfigSection.view_cons_of_name_ne (t := .storage) ht (.map es) raw
  have hgiven : Entries.locatorGiven ((.text "storage", .map es) :: raw) = true :=
    (ConfigSection.locatorGiven_congr (hothers .backup (by decide))).trans h.locatorGiven
  rw [ConfigSection.seen]
  by_cases hs : s = .storage
  · subst hs
    rw [if_pos ⟨rfl, hgiven⟩, if_pos rfl]
    exact congrArg (Except.map _) (ConfigSection.view_cons .storage es raw)
  · rw [if_neg fun hc => hs hc.1, if_neg hs, hothers s hs]

/-- **An edit is not seen**, in whichever section `s` one looks. -/
theorem Entries.Edit.seen {raw raw' : Entries} (h : Entries.Edit raw raw') (s : ConfigSection) :
    s.seen raw = s.seen raw' := by
  cases h with
  | reorder once perm =>
    exact ConfigSection.seen_congr fun s =>
      ConfigSection.view_congr (Value.lookup?_perm perm once s.name)
  | dropUnknown unknown v => exact ConfigSection.seen_congr fun s =>
      ConfigSection.view_cons_of_ne (unknown s)
  | dropEmpty t empty once =>
    refine ConfigSection.seen_congr fun s => ?_
    by_cases hs : s = t
    · subst hs
      exact ConfigSection.view_cons_empty empty once
    · exact ConfigSection.view_cons_of_name_ne hs _ _
  | inside t change raw =>
    refine ConfigSection.seen_congr fun s => ?_
    by_cases hs : s = t
    · subst hs
      exact change.view_cons
    · rw [ConfigSection.view_cons_of_name_ne hs, ConfigSection.view_cons_of_name_ne hs]
  | unread given es fs => rw [given.seen_target, given.seen_target]

/-! ## Settings that say the same -/

namespace ConfigSection.SameSettings

variable {s : ConfigSection} {es fs : Entries} {n : String}

theorem setting (h : s.SameSettings es fs) (hn : n ∈ s.settingNames) (default : Value) :
    setting es n default = setting fs n default := setting_congr (h n hn) default

theorem textSetting (h : s.SameSettings es fs) (hn : n ∈ s.settingNames) (default : String) :
    textSetting es n default = textSetting fs n default := by
  rw [DumpKeeper.textSetting, h.setting hn, ← DumpKeeper.textSetting]

end ConfigSection.SameSettings

section Build

variable {es fs : Entries}

theorem RedisSettings.build_congr (h : ConfigSection.redis.SameSettings es fs) :
    RedisSettings.build es = RedisSettings.build fs := by
  simp (disch := decide) only [RedisSettings.build, h.textSetting, h.setting]

theorem BackupSettings.build_congr (h : ConfigSection.backup.SameSettings es fs) :
    BackupSettings.build es = BackupSettings.build fs := by
  simp (disch := decide) only [BackupSettings.build, h.textSetting, h.setting]

/-- `StorageTarget.build` notes settings of the other kind of store; there is a name for each of
them. -/
theorem StorageTarget.build_congr (h : ConfigSection.storage.SameSettings es fs) :
    StorageTarget.build es = StorageTarget.build fs := by
  have hnames : ∀ kind, ∀ n ∈ knownParameters kind, n ∈ ConfigSection.storage.settingNames := by
    intro kind
    cases kind <;> decide
  have hunused : ∀ kind, (knownParameters kind).filter (fun n => (setting es n .null).truthy) =
      (knownParameters kind).filter fun n => (setting fs n .null).truthy := fun kind =>
    List.filter_congr fun n hn => by rw [h.setting (hnames kind n hn)]
  simp (disch := decide) only [StorageTarget.build, h.textSetting, h.setting, hunused]

theorem RetentionSettings.build_congr (h : ConfigSection.retention.SameSettings es fs) :
    RetentionSettings.build es = RetentionSettings.build fs := by
  simp (disch := decide) only [RetentionSettings.build, h.setting]

theorem LoggingSettings.build_congr (h : ConfigSection.logging.SameSettings es fs) :
    LoggingSettings.build es = LoggingSettings.build fs := by
  simp (disch := decide) only [LoggingSettings.build, h.textSetting, h.setting]

theorem MetricsSettings.build_congr (h : ConfigSection.metrics.SameSettings es fs) :
    MetricsSettings.build es = MetricsSettings.build fs := by
  simp (disch := decide) only [MetricsSettings.build, h.textSetting, h.setting]

end Build

/-- If the same is `seen` of the section `s` in both mappings, they have the same `view` of it,
unless it is the target. -/
theorem ConfigSection.view_of_seen {s : ConfigSection} {raw raw' : Entries}
    (h : s.seen raw = s.seen raw') (hs : s ≠ .storage) : s.view raw = s.view raw' := by
  rwa [seen, seen, if_neg fun hc => hs hc.1, if_neg fun hc => hs hc.1] at h

/-- The target has the same settings in `raw` and `raw'` where they are looked at. -/
theorem ConfigSection.agree_storage {raw raw' : Entries}
    (h : ∀ s : ConfigSection, s.seen raw = s.seen raw') :
    Agree (fun es fs => raw.locatorGiven = false → storage.SameSettings es fs)
      (settingsOf raw "storage") (settingsOf raw' "storage") := by
  have hgiven := locatorGiven_congr (view_of_seen (h .backup) (by decide))
  have hstorage := h .storage
  rw [seen, seen, ← hgiven] at hstorage
  cases hraw : raw.locatorGiven with
  | false =>
    rw [if_neg (by simp [hraw]), if_neg (by simp [hraw])] at hstorage
    exact (agree_of_view hstorage).mono fun _ _ hsame _ => hsame
  | true =>
    rw [if_pos ⟨rfl, hraw⟩, if_pos ⟨rfl, hraw⟩] at hstorage
    refine (Agree.of_map (.of_map (.of_eq hstorage))).mono fun _ _ _ hfalse => ?_
    exact absurd hfalse (by decide)

/-- **`Config.build` depends on what is `seen` of the sections**, and on nothing else. -/
theorem Config.build_congr {raw raw' : Entries}
    (h : ∀ s : ConfigSection, s.seen raw = s.seen raw') :
    Config.build raw = Config.build raw' := by
  have hagree : ∀ s : ConfigSection, s ≠ .storage →
      Agree s.SameSettings (settingsOf raw s.name) (settingsOf raw' s.name) := fun s hs =>
    ConfigSection.agree_of_view (ConfigSection.view_of_seen (h s) hs)
  refine Parallel.eq ?_
  rw [build, build]
  refine (Parallel.liftM (hagree .redis (by decide))).bind fun redis redis' hredis => ?_
  refine (Parallel.liftM (hagree .backup (by decide)).and_eq_ok).bind
    fun backup backup' hbackup => ?_
  refine (Parallel.liftM (ConfigSection.agree_storage h)).bind fun storage storage' hstorage => ?_
  refine (Parallel.liftM (hagree .retention (by decide))).bind
    fun retention retention' hretention => ?_
  refine (Parallel.liftM (hagree .logging (by decide))).bind fun logging logging' hlogging => ?_
  refine (Parallel.liftM (hagree .metrics (by decide))).bind fun metrics metrics' hmetrics => ?_
  rw [RedisSettings.build_congr hredis, BackupSettings.build_congr hbackup.2,
    RetentionSettings.build_congr hretention, LoggingSettings.build_congr hlogging,
    MetricsSettings.build_congr hmetrics]
  refine (Parallel.refl _).bind_eq fun redis => (Parallel.refl _).bind_eq fun backupSettings => ?_
  dsimp only
  rw [← hbackup.2.setting (by decide)]
  split
  · exact .refl _
  next hlocator =>
    have hgiven : raw.locatorGiven = false := by
      rw [Entries.locatorGiven, show settingsOf raw "backup" = .ok backup from hbackup.1]
      exact Bool.eq_false_iff.2 hlocator
    rw [StorageTarget.build_congr (hstorage hgiven)]
    exact .refl _

/-! ## Files that say the same -/

/-- **Rearranged files are built alike**: `Config.build` comes to the same configuration with the
same notes, or to the same refusal. -/
theorem Config.build_of_rearranged {raw raw' : Entries} (h : raw.Rearranged raw') :
    Config.build raw = Config.build raw' := by
  induction h with
  | rel raw raw' edit => exact build_congr edit.seen
  | refl raw => rfl
  | symm raw raw' _ ih => exact ih.symm
  | trans raw mid raw' _ _ ih ih' => exact ih.trans ih'

/-- A file with a `note` of its own, with `metrics` and `bucket` left empty, and with the settings
`project_id` and `owner`; `owner` and `note` have no meaning. -/
def scatteredFile : Entries :=
  [(.text "note", .int 1),
   (.text "storage", .map [(.text "bucket", .null), (.text "project_id", .text "p"),
      (.text "owner", .bool true)]),
   (.text "metrics", .null),
   (.text "redis", .map [(.text "node_name", .text "a")])]

/-- The file `scatteredFile`, tidied up. -/
def tidyFile : Entries :=
  [(.text "redis", .map [(.text "node_name", .text "a")]),
   (.text "storage", .map [(.text "project_id", .text "p")])]

/-- A file with a locator, and with the section `target` for the target besides. -/
def locatedFile (target : Entries) : Entries :=
  [(.text "storage", .map target),
   (.text "backup", .map [(.text "storage_url", .text "gs://b/p")])]

/-- `scatteredFile` and `tidyFile` come from one another step by step, and the setting that is of no
use is noted for both.  Where there is a locator, not even an unknown kind of store matters. -/
theorem Config.build_scatteredFile :
    scatteredFile.Rearranged tidyFile ∧ Config.build scatteredFile = Config.build tidyFile ∧
      ((Config.build tidyFile).run.run []).2 =
        [⟨.warning, .config, "Ignoring storage settings not used by s3: project_id"⟩] ∧
      Config.build (locatedFile [(.text "type", .text "ftp")]) =
        Config.build (locatedFile [(.text "region", .text "x")]) := by
  have hstorage (es fs : Entries) (change : ConfigSection.storage.Edit es fs) (raw : Entries) :
      Entries.Rearranged ((.text "storage", .map es) :: raw) ((.text "storage", .map fs) :: raw) :=
    .rel _ _ (.inside .storage change raw)
  have htidy : scatteredFile.Rearranged tidyFile := by
    refine .trans _ _ _ (.rel _ _ (.dropUnknown ?_ _ _)) ?_
    · intro s
      cases s <;> simp [ConfigSection.name]
    refine .trans _ _ _ (hstorage _ _ (.dropEmpty _ _) _) ?_
    refine .trans _ _ _ (hstorage _ _ (.reorder ?_ (.swap _ _ _)) _) ?_
    · simp [Entries.NamedOnce]
    refine .trans _ _ _ (hstorage _ _ (.dropUnknown ?_ _ _) _) ?_
    · simp [ConfigSection.settingNames]
    refine .trans _ _ _ (.rel _ _ (.reorder ?_ (.swap _ _ _))) ?_
    · simp [Entries.NamedOnce]
    refine .trans _ _ _ (.rel _ _ (.dropEmpty .metrics (.inl rfl) ?_)) ?_
    · simp [Value.lookup?, ConfigSection.name]
    refine .rel _ _ (.reorder ?_ (.swap _ _ _))
    simp [Entries.NamedOnce]
  have hgiven : Entries.GivesLocator
      [(.text "backup", .map [(.text "storage_url", .text "gs://b/p")])] :=
    ⟨_, _, Value.lookup?_cons_text _ _ _, Value.lookup?_cons_text _ _ _, by decide⟩
  exact ⟨htidy, build_of_rearranged htidy, by decide +kernel,
    build_of_rearranged (.rel _ _ (.unread hgiven _ _))⟩

end DumpKeeper
