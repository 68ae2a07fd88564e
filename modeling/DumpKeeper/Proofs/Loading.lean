import DumpKeeper.Config.Load
import DumpKeeper.Proofs.Act

/-!
# The stages of loading

Loading a configuration writes to the journal, and never looks at it.  Without what it writes it is
a computation in three stages, and that is the form in which it is reasoned about.

* `Journaled.answer` — what a computation answers, apart from what it writes to the journal.
  `Journaled.IsSteady` says that the journal makes no difference to it, and `answer_bind` and its
  companions evaluate it.
* `Config.entries`, `Config.built` — the first two stages: the mapping of a file, and the
  configuration of a mapping, which `Config.built_eq` puts together from its sections.
* `Config.loaded` — the configuration of a file and the environment, and `Config.loaded_eq`, which
  tells it in stages.
* `Config.ofText` — the configuration of a text and of variables, for inputs that can be written
  down.
-/

set_option autoImplicit false

namespace DumpKeeper

/-! ## Answers of computations that write to the journal -/

/-- A computation with two steps, `t >>= f`, has an answer if both have one. -/
theorem bind_eq_ok_iff {ε α β : Type} {t : Except ε α} {f : α → Except ε β} {b : β} :
    t >>= f = .ok b ↔ ∃ a, t = .ok a ∧ f a = .ok b := by
  rcases t with e | a
  · exact iff_of_false nofun fun ⟨_, h, _⟩ => nomatch h
  · exact ⟨fun h => ⟨a, rfl, h⟩, fun ⟨_, ha, h⟩ => Except.ok.inj ha ▸ h⟩

/-- To report failures in other words, `f`, makes no answer. -/
theorem mapError_eq_ok_iff {ε δ α : Type} {f : ε → δ} {t : Except ε α} {a : α} :
    t.mapError f = .ok a ↔ t = .ok a := by
  rcases t with e | b
  · exact iff_of_false (fun h => by cases h) fun h => by cases h
  · exact ⟨fun h => congrArg Except.ok (Except.ok.inj h),
      fun h => congrArg Except.ok (Except.ok.inj h)⟩

namespace Journaled

variable {ε α β : Type} {t : Journaled ε α} {f : α → Journaled ε β}

/-- What the computation `t` answers, apart from what it writes to the journal. -/
def answer (t : Journaled ε α) : Except ε α := (t.run.run []).1

/-- What is in the journal makes no difference to the answer of `t`. -/
def IsSteady (t : Journaled ε α) : Prop := ∀ j, (t.run.run j).1 = t.answer

theorem isSteady_pure (a : α) : IsSteady (pure a : Journaled ε α) := fun _ => rfl

theorem isSteady_throw (e : ε) : IsSteady (throw e : Journaled ε α) := fun _ => rfl

theorem isSteady_note (level : Level) (source : Source) (message : String) :
    IsSteady (note level source message : Journaled ε Unit) := fun _ => rfl

theorem isSteady_liftM (e : Except ε α) : IsSteady (liftM e : Journaled ε α) := fun _ => by
  cases e <;> rfl

theorem run_bind_fst (h : t.IsSteady) (hf : ∀ a, (f a).IsSteady) (j : Journal) :
    ((t >>= f).run.run j).1 = t.answer >>= fun a => (f a).answer := by
  rw [run_bind_eq_match, ← h j]
  rcases t.run.run j with ⟨e | a, k⟩
  · rfl
  · exact hf a k

/-- **The answer of `t >>= f`** is had from the answers of `t` and `f a`. -/
theorem answer_bind (h : t.IsSteady) (hf : ∀ a, (f a).IsSteady) :
    answer (t >>= f) = t.answer >>= fun a => (f a).answer :=
  run_bind_fst h hf []

theorem IsSteady.bind (h : t.IsSteady) (hf : ∀ a, (f a).IsSteady) : IsSteady (t >>= f) := fun j =>
  (run_bind_fst h hf j).trans (answer_bind h hf).symm

theorem IsSteady.liftM_bind {e : Except ε α} (hf : ∀ a, (f a).IsSteady) :
    IsSteady (liftM e >>= f) := (isSteady_liftM e).bind hf

theorem IsSteady.ite {c : Prop} [Decidable c] {t u : Journaled ε α} (ht : t.IsSteady)
    (hu : u.IsSteady) : IsSteady (if c then t else u) := by
  split
  · exact ht
  · exact hu

theorem answer_liftM (e : Except ε α) : answer (liftM e) = e := by cases e <;> rfl

/-- What is lifted writes nothing: the `answer` is the one of `e` and `f`. -/
theorem answer_liftM_bind (e : Except ε α) (f : α → Journaled ε β) :
    answer (liftM e >>= f) = e >>= fun a => (f a).answer := by
  cases e <;> rfl

theorem answer_note_bind {f : Unit → Journaled ε β} (level : Level) (source : Source)
    (message : String) (hf : (f ()).IsSteady) :
    answer (note level source message >>= f) = (f ()).answer := hf _

end Journaled

open Journaled

/-! ## The stages of loading -/

theorem settingsOf_congr {raw raw' : Entries} {name : String}
    (h : Value.lookup? name raw = Value.lookup? name raw') :
    settingsOf raw name = settingsOf raw' name := by
  rw [settingsOf, h, settingsOf]

theorem setting_congr {es fs : Entries} {name : String}
    (h : Value.lookup? name es = Value.lookup? name fs) (default : Value) :
    setting es name default = setting fs name default := by
  rw [setting, h, setting]

theorem StorageTarget.isSteady_build (es : Entries) : (StorageTarget.build es).IsSteady := by
  refine .liftM_bind fun text => ?_
  dsimp only
  split
  · exact isSteady_throw _
  · refine .ite ((isSteady_note _ _ _).bind fun _ => ?_) ?_
    · exact .liftM_bind fun _ => .liftM_bind fun _ => isSteady_pure _
    · exact .liftM_bind fun _ => .liftM_bind fun _ => isSteady_pure _

/-- The kind of store that the section `es` asks for. -/
def BackendKind.ofSection (es : Entries) : Except ConfigFailure BackendKind := do
  let name := Conversion.lower (← textSetting es "type" "s3")
  let name := if name = "gs" then "gcs" else name
  match BackendKind.named? name with
  | none => Conversion.refuse (.unknownKind (Text.quoted name))
  | some kind => return kind

/-- The target of the `kind` that the section `es` describes. -/
def StorageTarget.ofSection (es : Entries) (kind : BackendKind) :
    Except ConfigFailure StorageTarget := do
  return { kind := kind
           bucket := ← textSetting es "bucket" defaultFolder
           folder := ← textSetting es "prefix" defaultFolder
           region := if kind = .s3 then setting es "region" .null else .null
           endpoint := if kind = .s3 then setting es "endpoint" .null else .null
           projectId := if kind = .gcs then setting es "project_id" .null else .null }

theorem StorageTarget.answer_build (es : Entries) :
    (StorageTarget.build es).answer = BackendKind.ofSection es >>= StorageTarget.ofSection es := by
  rw [StorageTarget.build, answer_liftM_bind, BackendKind.ofSection, bind_assoc]
  refine bind_congr fun text => ?_
  dsimp only
  rcases BackendKind.named? (if Conversion.lower text = "gs" then "gcs"
    else Conversion.lower text) with _ | kind
  · rfl
  dsimp only
  split
  · rw [answer_note_bind _ _ _ (.liftM_bind fun _ => .liftM_bind fun _ => isSteady_pure _)]
    simp only [answer_liftM_bind]
    rfl
  · simp only [answer_liftM_bind]
    rfl

/-- The configuration of the mapping `raw`, apart from what is noted. -/
def Config.built (raw : Entries) : Except ConfigFailure Config := (Config.build raw).answer

theorem Config.isSteady_build (raw : Entries) : (Config.build raw).IsSteady := by
  refine .liftM_bind fun _ => .liftM_bind fun backup => .liftM_bind fun _ => .liftM_bind fun _ =>
    .liftM_bind fun _ => .liftM_bind fun _ => .liftM_bind fun _ => .liftM_bind fun _ => ?_
  refine .ite (.liftM_bind fun _ => ?_) ((StorageTarget.isSteady_build _).bind fun _ => ?_)
  · exact .liftM_bind fun _ => .liftM_bind fun _ => .liftM_bind fun _ => isSteady_liftM _
  · exact .liftM_bind fun _ => .liftM_bind fun _ => .liftM_bind fun _ => isSteady_liftM _

/-- The target of a file: a locator in the section `backup` goes before the section `storage`. -/
def StorageTarget.ofFile (backup storage : Entries) : Except ConfigFailure StorageTarget :=
  if (setting backup "storage_url" .null).truthy then
    StorageTarget.ofLocator (setting backup "storage_url" .null)
  else BackendKind.ofSection storage >>= StorageTarget.ofSection storage

/-- **The configuration of the mapping `raw`** is put together from its sections. -/
theorem Config.built_eq (raw : Entries) :
    Config.built raw = (do
      let redis ← settingsOf raw "redis"
      let backup ← settingsOf raw "backup"
      let storage ← settingsOf raw "storage"
      let retention ← settingsOf raw "retention"
      let logging ← settingsOf raw "logging"
      let metrics ← settingsOf raw "metrics"
      let redis ← RedisSettings.build redis
      let backupSettings ← BackupSettings.build backup
      let target ← StorageTarget.ofFile backup storage
      let retention ← RetentionSettings.build retention
      let logging ← LoggingSettings.build logging
      let metrics ← MetricsSettings.build metrics
      Config.validate ⟨redis, backupSettings, target, retention, logging, metrics⟩) := by
  simp only [Config.built, Config.build, answer_liftM_bind]
  refine bind_congr fun _ => bind_congr fun backup => bind_congr fun _ => bind_congr fun _ =>
    bind_congr fun _ => bind_congr fun _ => bind_congr fun _ => bind_congr fun _ => ?_
  rw [StorageTarget.ofFile]
  split
  · simp only [answer_liftM_bind, answer_liftM]
  · rw [answer_bind (StorageTarget.isSteady_build _) fun _ =>
      .liftM_bind fun _ => .liftM_bind fun _ => .liftM_bind fun _ => isSteady_liftM _]
    simp only [answer_liftM_bind, answer_liftM, StorageTarget.answer_build]

/-- The mapping of the file at `path`; where there is no file, nothing is set. -/
def Config.entries (files : FileTree) (path : Option String) : Except ConfigFailure Entries :=
  match (path.filter fun s => !s.isEmpty).map FilePath.ofString with
  | none => .ok []
  | some p =>
    match files.isThere p with
    | .error _ => .error (.broken .unreachable)
    | .ok false => .ok []
    | .ok true => Config.fromFile files p

/-- What `Config.load` does with the mapping `raw` of a file. -/
def Config.finish (env : Environment) (raw : Entries) : Journaled ConfigFailure Config := do
  let config ← Config.build raw
  let config ← liftM (config.override env)
  if config.retention.deletesEverything then
    note .warning .config deletesEverythingWarning
  return config

theorem Config.isSteady_warn (c : Config) :
    IsSteady (do
      if c.retention.deletesEverything then
        note .warning .config deletesEverythingWarning
      return c : Journaled ConfigFailure Config) :=
  .ite ((isSteady_note _ _ _).bind fun _ => isSteady_pure _) (isSteady_pure _)

theorem Config.isSteady_finish (env : Environment) (raw : Entries) :
    (Config.finish env raw).IsSteady :=
  (Config.isSteady_build raw).bind fun _ => .liftM_bind Config.isSteady_warn

theorem Config.answer_finish (env : Environment) (raw : Entries) :
    (Config.finish env raw).answer = Config.built raw >>= Config.override env := by
  rw [Config.finish, answer_bind (Config.isSteady_build raw) fun _ =>
    .liftM_bind Config.isSteady_warn, Config.built]
  refine bind_congr fun c => ?_
  rw [answer_liftM_bind]
  rcases c.override env with f | c
  · rfl
  · show answer (ite _ _ _) = _
    split <;> rfl

/-- The configuration of the file at `path` and the variables in `env`, apart from what is noted. -/
def Config.loaded (files : FileTree) (path : Option String) (env : Environment) :
    Except ConfigFailure Config := (Config.load files path env).answer

/-- **Loading goes in three stages**: the file is read by `entries`, its settings are `built`, and
the variables are laid over them by `override`. -/
theorem Config.loaded_eq (files : FileTree) (path : Option String) (env : Environment) :
    Config.loaded files path env = (do
      let raw ← Config.entries files path
      let c ← Config.built raw
      c.override env) := by
  have hnone : ∀ message : String, answer (do
      note .warning .config message
      Config.finish env []) = Config.built [] >>= Config.override env := fun message => by
    rw [answer_note_bind _ _ _ (Config.isSteady_finish env []), Config.answer_finish]
  have hsome : ∀ p message, answer (do
      note .info .config message
      let raw ← liftM (Config.fromFile files p)
      Config.finish env raw) =
        Config.fromFile files p >>= fun raw => Config.built raw >>= Config.override env := by
    intro p message
    rw [answer_note_bind _ _ _ (.liftM_bind (Config.isSteady_finish env)), answer_liftM_bind]
    exact bind_congr (Config.answer_finish env)
  rw [Config.loaded, Config.load, Config.entries]
  dsimp only
  generalize (path.filter fun s => !s.isEmpty).map FilePath.ofString = place
  rcases place with _ | p
  · exact hnone _
  dsimp only
  rcases files.isThere p with f | _ | _
  · rfl
  · exact hnone _
  · exact hsome p _

/-! ## Texts -/

/-- The configuration of a file that says `text`, and of the variables in `env`. -/
def Config.ofText (text : String) (env : Environment) : Except ConfigFailure Config :=
  Config.loaded (.ofEntries [(["config.yaml"], .file text.toUTF8 ⟨0, 0⟩)]) (some "config.yaml") env

/-- What is loaded, or what is so by default. -/
def Config.orDefault (e : Except ConfigFailure Config) : Config := e.toOption.getD {}

/-- What loading fails with, if it fails. -/
def Config.failure? : Except ConfigFailure Config → Option ConfigFailure
  | .error f => some f
  | .ok _ => none

theorem Config.eq_error_of_failure? {e : Except ConfigFailure Config} {f : ConfigFailure}
    (h : Config.failure? e = some f) : e = .error f := by
  cases e with
  | error g => exact congrArg Except.error (Option.some.inj h)
  | ok c => cases h

theorem Config.eq_ok_orDefault {e : Except ConfigFailure Config} (h : e.isOk = true) :
    e = .ok (Config.orDefault e) := by
  cases e with
  | error f => cases h
  | ok c => rfl

end DumpKeeper
