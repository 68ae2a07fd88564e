import DumpKeeper.Proofs.Closing
import DumpKeeper.Proofs.Layers
import DumpKeeper.Proofs.Twins

/-!
# The address of the node stays private

The address at which the node is reached may hold a password.  It goes into one call, the one that
makes a client, and nobody who watches the program learns anything about it in any other way: from
the journal, from the code and the texts that the program ends with, from the counters, from what
the endpoint answers, or from the store.  The one exception is an address that the library refuses
which makes the client: that it does so, and why, is reported in its own words.

* `Environment.Twins`, `Entries.Twins` — variables and settings that differ in the address only.
* `Config.parallel_load` — they are refused for the same reason, or loaded with the same notes.
* `CommandLine.Discreet` — two executions that differ in the address only.
* `CommandLine.run_conceals_address` — they cannot be told apart.
-/

set_option autoImplicit false

namespace DumpKeeper

/-! ## Settings -/

/-- `env` and `env'` differ in the address of the node only, `REDIS_CONNECTION`. -/
def Environment.Twins (env env' : Environment) : Prop :=
  ∀ name, name ≠ "REDIS_CONNECTION" → given? env name = given? env' name

/-- `es` and `fs` are settings of the node that differ in its address only. -/
structure Entries.SameNode (es fs : Entries) : Prop where
  /-- All other settings are the same. -/
  others : ∀ name, name ≠ "connection_string" → Value.lookup? name es = Value.lookup? name fs
  /-- Either address can be shown, or neither. -/
  address : Agree (fun _ _ => True)
    (textSetting es "connection_string" ({} : RedisSettings).connection)
    (textSetting fs "connection_string" ({} : RedisSettings).connection)

/-- `raw` and `raw'` differ in the address of the node only, `connection_string` in their section
`redis`. -/
structure Entries.Twins (raw raw' : Entries) : Prop where
  /-- All other sections are the same. -/
  sections : ∀ name, name ≠ "redis" → Value.lookup? name raw = Value.lookup? name raw'
  /-- The section of the node is the same but for the address, or is refused for the same reason. -/
  node : Agree Entries.SameNode (settingsOf raw "redis") (settingsOf raw' "redis")

/-- `d` is `c` but for the address of the node. -/
def Config.IsRedial (c d : Config) : Prop := d = c.redial d.redis.connection

/-- Any two addresses, `url` and `url'`, can be given in front of `env`. -/
theorem Environment.twins_cons (url url' : String) (env : Environment) :
    Environment.Twins (("REDIS_CONNECTION", url) :: env) (("REDIS_CONNECTION", url') :: env) := by
  intro name hname
  simp [given?, List.lookup_cons, beq_false_of_ne hname]

theorem Entries.Twins.refl (raw : Entries) : Entries.Twins raw raw where
  sections _ _ := rfl
  node := Agree.refl (fun _ => ⟨fun _ _ => rfl, Agree.refl (fun _ => trivial) _⟩) _

/-! ### What is made of them -/

/-- `RedisSettings.build` builds the settings of the node alike. -/
theorem RedisSettings.agree_build {es fs : Entries} (h : Entries.SameNode es fs) :
    Agree (fun s s' : RedisSettings => s' = { s with connection := s'.connection })
      (RedisSettings.build es) (RedisSettings.build fs) := by
  have hsame : ∀ name, name ≠ "connection_string" → ∀ d, setting es name d = setting fs name d :=
    fun name hname => setting_congr (h.others name hname)
  refine h.address.bind fun url url' _ => ?_
  rw [hsame "data_path" (by decide), textSetting, hsame "node_name" (by decide), ← textSetting,
    hsame "backup_master" (by decide), hsame "backup_replica" (by decide)]
  refine Agree.bind_left _ fun dataPath => Agree.bind_left _ fun nodeName => ?_
  exact Agree.bind_left _ fun backupMaster => Agree.bind_left _ fun backupReplica => .ok rfl

/-! ## Variables -/

section Variables

variable {env env' : Environment}

/-- `orGiven` takes a text from the variable `name`, or leaves it as it is; either way there is
one. -/
theorem agree_orGiven_text (name s s' : String) :
    Agree (fun _ _ => True) (orGiven env name s .ok) (orGiven env' name s' .ok) := by
  rw [orGiven, orGiven]
  split <;> split <;> exact .ok trivial

variable (henv : env.Twins env')

include henv

/-- Variables change the settings `s` and `s'` of the node in the same way, but for its address. -/
theorem RedisSettings.agree_override {s s' : RedisSettings}
    (h : s' = { s with connection := s'.connection }) :
    Agree (fun s s' : RedisSettings => s' = { s with connection := s'.connection })
      (s.override env) (s'.override env') := by
  have hsame : ∀ name, name ≠ "REDIS_CONNECTION" → ∀ {α : Type} (current : α) convert,
      orGiven env name current convert = orGiven env' name current convert :=
    fun name hname => orGiven_congr (henv name hname)
  rw [h]
  refine (agree_orGiven_text _ _ _).bind fun url url' _ => ?_
  rw [hsame "REDIS_DATA_PATH" (by decide), hsame "REDIS_NODE_NAME" (by decide),
    hsame "BACKUP_MASTER" (by decide), hsame "BACKUP_REPLICA" (by decide)]
  refine Agree.bind_left _ fun dataPath => Agree.bind_left _ fun nodeName => ?_
  exact Agree.bind_left _ fun backupMaster => Agree.bind_left _ fun backupReplica => .ok rfl

/-- The variables in `names`, which are those of other sections, are the same. -/
theorem Environment.Twins.agreesOn {names : List String} (h : "REDIS_CONNECTION" ∉ names) :
    env.AgreesOn names env' :=
  fun name hname => henv name fun he => h (he ▸ hname)

end Variables

/-! ## Configurations -/

namespace Config

/-- What is shown of the configuration `c` leaves the address out. -/
theorem described_redial (c : Config) (url : String) :
    (c.redial url).described = c.described := rfl

theorem isShowable_redial (c : Config) (url : String) :
    (c.redial url).isShowable = c.isShowable := rfl

/-- `validate` looks at names, and not at addresses. -/
theorem agree_validate {c d : Config} (h : c.IsRedial d) :
    Agree IsRedial c.validate d.validate := by
  have hrest : (c.redial d.redis.connection).validate =
      c.validate.map fun _ => c.redial d.redis.connection := by
    rw [validate, validate, apply_ite (Except.map _), apply_ite (Except.map _),
      apply_ite (Except.map _)]
    rfl
  rw [h, hrest, validate]
  split
  · exact .error _
  split
  · exact .error _
  split
  · exact .error _
  · exact .ok rfl

/-- **Variables make of two configurations what they make of one**, but for the address:
`Config.override` keeps `IsRedial`. -/
theorem agree_override {env env' : Environment} (henv : env.Twins env') {c d : Config}
    (h : c.IsRedial d) : Agree IsRedial (c.override env) (d.override env') := by
  rw [h]
  have hnode : Agree _ (c.redis.override env)
      ((c.redial d.redis.connection).redis.override env') :=
    RedisSettings.agree_override henv rfl
  refine hnode.bind fun redis redis' hredis => ?_
  dsimp only [redial]
  rw [BackupSettings.override_congr (henv.agreesOn (by decide)),
    StorageTarget.override_congr (henv.agreesOn (by decide)),
    RetentionSettings.override_congr (henv.agreesOn (by decide)),
    LoggingSettings.override_congr (henv.agreesOn (by decide)),
    MetricsSettings.override_congr (henv.agreesOn (by decide))]
  refine Agree.bind_left _ fun backup => Agree.bind_left _ fun storage => ?_
  refine Agree.bind_left _ fun retention => Agree.bind_left _ fun logging => ?_
  refine Agree.bind_left _ fun metrics => agree_validate ?_
  rw [hredis]
  rfl

/-- **`Config.build` makes of twins what it makes of one**, but for the address. -/
theorem parallel_build {raw raw' : Entries} (h : Entries.Twins raw raw') :
    Parallel Eq IsRedial (build raw) (build raw') := by
  rw [build, build, settingsOf_congr (h.sections "backup" (by decide)),
    settingsOf_congr (h.sections "storage" (by decide)),
    settingsOf_congr (h.sections "retention" (by decide)),
    settingsOf_congr (h.sections "logging" (by decide)),
    settingsOf_congr (h.sections "metrics" (by decide))]
  -- only the section of the node may differ, and all sections are looked at before any is used
  refine (Parallel.liftM h.node).bind fun es fs hnode => ?_
  refine (Parallel.refl _).bind_eq fun backup => (Parallel.refl _).bind_eq fun storage => ?_
  refine (Parallel.refl _).bind_eq fun retention => (Parallel.refl _).bind_eq fun logging => ?_
  refine (Parallel.refl _).bind_eq fun metrics => ?_
  refine (Parallel.liftM (RedisSettings.agree_build hnode)).bind fun redis redis' hredis => ?_
  refine (Parallel.refl _).bind_eq fun backupSettings => ?_
  have hrest : ∀ target, Parallel Eq IsRedial
      (do
        let retention ← liftM (RetentionSettings.build retention)
        let logging ← liftM (LoggingSettings.build logging)
        let metrics ← liftM (MetricsSettings.build metrics)
        liftM (validate ⟨redis, backupSettings, target, retention, logging, metrics⟩) :
          Journaled ConfigFailure Config)
      (do
        let retention ← liftM (RetentionSettings.build retention)
        let logging ← liftM (LoggingSettings.build logging)
        let metrics ← liftM (MetricsSettings.build metrics)
        liftM (validate ⟨redis', backupSettings, target, retention, logging, metrics⟩)) := by
    intro target
    refine (Parallel.refl _).bind_eq fun retention => (Parallel.refl _).bind_eq fun logging => ?_
    refine (Parallel.refl _).bind_eq fun metrics => .liftM (agree_validate ?_)
    rw [hredis]
    rfl
  exact .ite ((Parallel.refl _).bind_eq hrest) ((Parallel.refl _).bind_eq hrest)

/-- **Twins are refused by `Config.load` for the same reason**, or the configurations that it makes
differ in the address of the node only; what is noted meanwhile is the same. -/
theorem parallel_load {t u : FileTree} {place : List String} {path : Option String}
    {env env' : Environment} (hfiles : t.AgreesOff place u) (henv : env.Twins env')
    (h : Agree Entries.Twins (entries t path) (entries u path)) :
    Parallel Eq IsRedial (load t path env) (load u path env') := by
  have hfinish : ∀ raw raw', Entries.Twins raw raw' →
      Parallel Eq IsRedial (finish env raw) (finish env' raw') := by
    intro raw raw' hraw
    refine (parallel_build hraw).bind fun c d hcd => ?_
    refine (Parallel.liftM (agree_override henv hcd)).bind fun c d hcd => ?_
    rw [hcd]
    exact .ite ((Parallel.refl _).bind_eq fun _ => .pure rfl) (.pure rfl)
  have hnone : ∀ message : String, Parallel Eq IsRedial
      (do note .warning .config message; finish env [])
      (do note .warning .config message; finish env' []) := fun message =>
    (Parallel.refl _).bind_eq fun _ =>
      hfinish _ _ ⟨fun _ _ => rfl, .ok ⟨fun _ _ => rfl, .ok trivial⟩⟩
  have hsome : ∀ p message, Agree Entries.Twins (fromFile t p) (fromFile u p) →
      Parallel Eq IsRedial
        (do note .info .config message; let raw ← liftM (fromFile t p); finish env raw)
        (do note .info .config message; let raw ← liftM (fromFile u p); finish env' raw) :=
    fun p message hp => (Parallel.refl _).bind_eq fun _ => (Parallel.liftM hp).bind hfinish
  rw [load, load]
  rw [entries, entries] at h
  dsimp only
  generalize (path.filter fun s => !s.isEmpty).map FilePath.ofString = where? at h ⊢
  rcases where? with _ | p
  · exact hnone _
  dsimp only at h ⊢
  rw [hfiles.isThere] at h ⊢
  generalize u.isThere p = there at h ⊢
  rcases there with f | _ | _
  · exact .throw _
  · exact hnone _
  · exact hsome p _ h

/-- The address `url` that a variable gives is the one in use. -/
theorem connection_of_loaded {files : FileTree} {path : Option String} {env : Environment}
    {url : String} {c : Config} (hurl : given? env "REDIS_CONNECTION" = some url)
    (h : loaded files path env = .ok c) : c.redis.connection = url := by
  rw [loaded_eq] at h
  obtain ⟨raw, -, h⟩ := bind_eq_ok_iff.1 h
  obtain ⟨built, -, h⟩ := bind_eq_ok_iff.1 h
  obtain ⟨redis, hredis, h⟩ := bind_eq_ok_iff.1 h
  obtain ⟨backup, -, h⟩ := bind_eq_ok_iff.1 h
  obtain ⟨storage, -, h⟩ := bind_eq_ok_iff.1 h
  obtain ⟨retention, -, h⟩ := bind_eq_ok_iff.1 h
  obtain ⟨logging, -, h⟩ := bind_eq_ok_iff.1 h
  obtain ⟨metrics, -, h⟩ := bind_eq_ok_iff.1 h
  obtain ⟨rfl, -⟩ := validate_eq_ok h
  obtain ⟨connection, hconnection, hredis⟩ := bind_eq_ok_iff.1 hredis
  obtain ⟨dataPath, -, hredis⟩ := bind_eq_ok_iff.1 hredis
  obtain ⟨nodeName, -, hredis⟩ := bind_eq_ok_iff.1 hredis
  obtain ⟨backupMaster, -, hredis⟩ := bind_eq_ok_iff.1 hredis
  obtain ⟨backupReplica, -, hredis⟩ := bind_eq_ok_iff.1 hredis
  cases hredis
  rw [orGiven, hurl] at hconnection
  exact (Except.ok.inj hconnection).symm

end Config

/-! ## Addresses -/

namespace Replication

/-- Whether `url` has the scheme of an address of a node. -/
def hasScheme (url : String) : Bool := schemes.any fun s => s.toList.isPrefixOf url.toList

/-- **Addresses without such a scheme** are refused by `checkAddress` in the same words. -/
theorem checkAddress_congr {url url' : String} (h : hasScheme url = false)
    (h' : hasScheme url' = false) : checkAddress url = checkAddress url' := by
  have hrefused : ∀ url, hasScheme url = false → checkAddress url = .error schemeText := by
    intro url hurl
    rw [hasScheme] at hurl
    rw [checkAddress, hurl]
    rfl
  rw [hrefused url h, hrefused url' h']

/-- An address with such a scheme may be refused in words that quote it.  A password with a slash is
taken for a port up to the slash. -/
example : checkAddress "redis://:pass/word@node" =
    .error "Port could not be cast to integer value as 'pass'" := by
  decide +kernel

end Replication

/-! ## Stages of the command line -/

variable {cwd place : List String} {check : String → Except String Unit} {r s : Run}

theorem Store.twins_connect (t : StorageTarget) :
    Parallel (Run.Twins cwd place check) Eq (connect t) (connect t) := by
  rw [connect_eq_relaying]
  exact (twins_request rfl).relaying.bind_eq fun _ => .pure rfl

namespace Endpoint

theorem twins_start (l : MetricsSettings) :
    Parallel (Run.Twins cwd place check) Eq (start l) (start l) := by
  refine (twins_request rfl).attempt_bind fun answer => ?_
  rcases answer with f | _
  · cases f with
    | service f =>
      cases f with
      | system text => exact (twins_say _ _ _).bind_eq fun _ => .pure rfl
      | _ => exact .fail _
    | _ => exact .fail _
  · exact (twins_say _ _ _).bind_eq fun _ => .pure rfl

theorem twins_stop : Parallel (Run.Twins cwd place check) Eq stop stop :=
  (twins_request rfl).bind_eq fun _ => twins_say _ _ _

end Endpoint

namespace CommandLine

/-- **Two executions that differ in the address of the node only.**  One has the variables `env` and
the files `t`, the other one has `env'` and `u`; both read their settings from `path`.  The address
may differ in the variable and in the setting that gives it, as long as `check` has the same against
both. -/
structure Discreet (check : String → Except String Unit) (path : String) (env env' : Environment)
    (place : List String) (t u : FileTree) : Prop where
  /-- The variables are twins. -/
  given : env.Twins env'
  /-- So are the settings of the files, or both files are refused for the same reason. -/
  read : Agree Entries.Twins (Config.entries t (some path)) (Config.entries u (some path))
  /-- If the role of the node matters, a client can be made for both addresses, or both are refused
  in the same words. -/
  address : ∀ c d, Config.loaded t (some path) env = .ok c →
    Config.loaded u (some path) env' = .ok d → c.redis.roleMatters = true →
      check c.redis.connection = check d.redis.connection
  /-- What is backed up is not the file of the settings, at the place where the trees differ. -/
  dump : ∀ c, Config.loaded t (some path) env = .ok c → c.dumpPath.leadsTo t.cwd ≠ place

/-- **Settings that `loadConfig` reads are twins**, or they are refused for the same reason. -/
theorem twins_loadConfig {path : String} {env env' : Environment}
    (hrs : Run.Twins cwd place check r s)
    (h : Discreet check path env env' place r.world.files s.world.files) :
    ParallelAt (Run.Twins cwd place check) (Config.Twins cwd place check) (loadConfig path env)
      (loadConfig path env') r s := by
  obtain ⟨hresult, hjournal⟩ :=
    Config.parallel_load hrs.world.files h.given h.read [] [] rfl
  have haddress := h.address
  have hdump := h.dump
  rw [Config.loaded, Journaled.answer, hrs.world.cwd] at hdump
  rw [Config.loaded, Config.loaded, Journaled.answer, Journaled.answer] at haddress
  refine ParallelAt.get_bind ?_
  rcases hx : (Config.load r.world.files (some path) env).run.run [] with ⟨x, j⟩
  rcases hy : (Config.load s.world.files (some path) env').run.run [] with ⟨y, k⟩
  rw [hx, hy] at hresult hjournal haddress
  rw [hx] at hdump
  -- both loads begin with an empty journal and note the same, which is then said in both runs
  cases hjournal
  have hsaid : Parallel (Run.Twins cwd place check) Eq
      (j.forM fun e => say e.level e.source e.message)
      (j.forM fun e => say e.level e.source e.message) := .forM fun e _ => twins_say _ _ _
  refine ParallelAt.bind (hsaid r s hrs) fun _ _ _ => ?_
  cases hresult with
  | error f => exact .fail _
  | ok hcd => exact .pure ⟨hcd, haddress _ _ rfl rfl, hdump _ rfl⟩

/-- `setUpJournal` sets up the journal in the same way. -/
theorem twins_setUpJournal (l : LoggingSettings) :
    Parallel (Run.Twins cwd place check) Eq (setUpJournal l) (setUpJournal l) := by
  refine .get_bind fun r s hrs => ?_
  have hconfigure := l.agree_configure hrs.world.files
  rcases ht : l.configure r.world.files with f | ⟨logging, t⟩
  · rw [ht] at hconfigure
    rw [hconfigure.eq_error]
    exact .fail _
  rw [ht] at hconfigure
  obtain ⟨⟨_, u⟩, hu, rfl, hcwd, hfiles⟩ := hconfigure.exists_ok
  rw [hu]
  have hopened : Parallel (Run.Twins cwd place check) Eq
      (changeWorld fun w => { w with files := t }) (changeWorld fun w => { w with files := u }) :=
    twins_changeWorld fun w v hw => ⟨hcwd.trans hrs.world.cwd, hw.checks, hw.view, hfiles, hw.calls⟩
  refine hopened.bind_eq fun _ => ?_
  exact Parallel.bind_eq (.modify fun _ _ h => { h with level := rfl }) fun _ => twins_say _ _ _

/-- `prepare` reads settings and sets up the journal in the same way. -/
theorem twins_prepare {path : String} {env env' : Environment} (hrs : Run.Twins cwd place check r s)
    (h : Discreet check path env env' place r.world.files s.world.files) :
    ParallelAt (Run.Twins cwd place check) (Config.Twins cwd place check) (prepare path env)
      (prepare path env') r s := by
  refine (twins_loadConfig hrs h).bind fun c d hcd => ?_
  rw [show d.logging = c.logging by rw [hcd.redial]; rfl]
  exact (twins_setUpJournal c.logging).bind_eq fun _ => .pure hcd

/-- `connectStore` connects the store in the same way. -/
theorem twins_connectStore (t : StorageTarget) :
    Parallel (Run.Twins cwd place check) Eq (connectStore t) (connectStore t) := by
  refine (Store.twins_connect t).attempt_bind fun answer => ?_
  rcases answer with f | store
  · cases f with
    | storage e => exact (twins_say _ _ _).bind_eq fun _ => .pure rfl
    | _ => exact .fail _
  · exact .pure rfl

/-- **Whether the node answers** does not depend on its address, by `checkNode`. -/
theorem twins_checkNode {l : RedisSettings} {url : String}
    (h : l.roleMatters = true → check l.connection = check url) :
    Parallel (Run.Twins cwd place check) Eq (checkNode l)
      (checkNode { l with connection := url }) := by
  rw [checkNode, checkNode, show RedisSettings.roleMatters { l with connection := url } =
    l.roleMatters from rfl]
  by_cases hmatters : l.roleMatters = true
  · rw [if_pos hmatters, if_pos hmatters]
    refine (Replication.twins_checkConnection (h hmatters)).attempt_bind fun answer => ?_
    rcases answer with f | _
    · cases f with
      | role e => exact (twins_say _ _ _).bind_eq fun _ => .pure rfl
      | _ => exact .fail _
    · exact .pure rfl
  · rw [if_neg hmatters, if_neg hmatters]
    exact .pure rfl

/-- `makeBackups` makes backups in the same way. -/
theorem twins_makeBackups {x y : Executor} (h : Executor.Twins cwd place check x y) (once : Bool)
    (story : Story) :
    Parallel (Run.Twins cwd place check) Eq (makeBackups x once story.course)
      (makeBackups y once story.course) := by
  have hrun := Schedule.twins_run h (fun _ _ => twins_runCycle) story.twins_acts true
    x.config.backup.interval x.config.backup.initialDelay once
  obtain ⟨url, rfl, -⟩ := h.exists_redial
  refine (twins_say _ _ _).bind_eq fun _ => hrun.attempt_bind fun answer => ?_
  rcases answer with f | succeeded
  · cases f with
    | config e => exact (twins_say _ _ _).bind_eq fun _ => .pure rfl
    | _ => exact .fail _
  · exact .pure rfl

/-- So does `work` everything for which the endpoint runs. -/
theorem twins_work {c d : Config} (h : Config.Twins cwd place check c d) (once : Bool)
    (story : Story) :
    Parallel (Run.Twins cwd place check) Eq (work c once story.course)
      (work d once story.course) := by
  obtain ⟨url, rfl, haddress⟩ := h.exists_redial
  refine (twins_connectStore _).bind_eq fun store? => ?_
  rcases store? with _ | store
  · exact .pure rfl
  · refine (twins_checkNode haddress).bind_eq fun answers => ?_
    have hx : Executor.Twins cwd place check ⟨c, store⟩ ⟨c.redial url, store⟩ := ⟨h, rfl⟩
    exact .ite (twins_makeBackups hx once story) (.pure rfl)

/-- **Settings are announced in the same way**: what the journal shows of `c` leaves the address
out. -/
theorem twins_announce (c : Config) (url : String) :
    Parallel (Run.Twins cwd place check) Eq (announce c) (announce (c.redial url)) := by
  rw [announce, announce, c.isShowable_redial, c.described_redial]
  refine .ite (.fail _) ((twins_say _ _ _).bind_eq fun _ => ?_)
  refine Parallel.bind_eq (.modify fun _ _ h => { h with counting := rfl }) fun _ => ?_
  exact .ite (Endpoint.twins_start _) ((twins_say _ _ _).bind_eq fun _ => .pure rfl)

/-- And so does `serve` put the settings to use. -/
theorem twins_serve {c d : Config} (h : Config.Twins cwd place check c d) (once : Bool)
    (story : Story) :
    Parallel (Run.Twins cwd place check) Eq (serve c once story.course)
      (serve d once story.course) := by
  have hannounce : Parallel (Run.Twins cwd place check) Eq (announce c) _ :=
    twins_announce c d.redis.connection
  rw [← h.redial] at hannounce
  rw [serve_eq, serve_eq]
  exact hannounce.bind_eq fun served => Schedule.twins_thenAlways (twins_work h once story)
    (.ite Endpoint.twins_stop (.pure rfl))

/-- **Nobody learns the address of the node**: two executions of `run` that differ in nothing else
end in the same way, with the same code and the same texts, or with the same failure; and they leave
runs that cannot be told apart, in which the same was said, counted, asked for, answered and
stored.  How addresses are checked does not matter, as long as `check` comes to the same for both
where it is made. -/
theorem run_conceals_address {args : List String} {env env' : Environment}
    (hrs : Run.Twins cwd place check r s)
    (h : ∀ a, Arguments.parse args = .ok a →
      Discreet check a.path env env' place r.world.files s.world.files) (story : Story) :
    ((run args env story.course).on r).1 = ((run args env' story.course).on s).1 ∧
      Run.Twins cwd place check ((run args env story.course).on r).2
        ((run args env' story.course).on s).2 := by
  have hrun : ParallelAt (Run.Twins cwd place check) Eq (run args env story.course)
      (run args env' story.course) r s := by
    rw [run, run]
    rcases ha : Arguments.parse args with asked | a
    · exact Parallel.pure rfl r s hrs
    · refine ParallelAt.bind (Parallel.attempt_at (twins_prepare hrs (h a ha))) fun x y hxy => ?_
      cases hxy with
      | error f =>
        cases f with
        | config e => exact .pure rfl
        | _ => exact .fail _
      | ok hcd => exact (twins_serve hcd a.once story).bind_eq fun _ => .pure rfl
  exact ⟨hrun.1.eq, hrun.2⟩

/-! ### Two passwords -/

/-- The `primaryVariables` with the address `url`. -/
def dialing (url : String) : Environment := ("REDIS_CONNECTION", url) :: primaryVariables

/-- **Two passwords come to the same** in `lostNode`. -/
theorem run_conceals_passwords :
    Run.Twins ["<cwd>"] ["<cwd>", "config.yaml"] Replication.checkAddress lostNode lostNode ∧
    (∀ a, Arguments.parse ["--once"] = .ok a →
      Discreet Replication.checkAddress a.path (dialing "redis://:first@node")
        (dialing "redis://:second@node") ["<cwd>", "config.yaml"] lostNode.world.files
        lostNode.world.files) ∧
    ((run ["--once"] (dialing "redis://:first@node") {}).on lostNode).1.toOption.map (·.code) =
      some failure ∧
    ((run ["--once"] (dialing "redis://:first@node") {}).on lostNode).1 =
      ((run ["--once"] (dialing "redis://:second@node") {}).on lostNode).1 ∧
    Run.Twins ["<cwd>"] ["<cwd>", "config.yaml"] Replication.checkAddress
      ((run ["--once"] (dialing "redis://:first@node") {}).on lostNode).2
      ((run ["--once"] (dialing "redis://:second@node") {}).on lostNode).2 := by
  have htwins : Run.Twins ["<cwd>"] ["<cwd>", "config.yaml"] Replication.checkAddress lostNode
      lostNode :=
    ⟨⟨rfl, rfl, rfl, .refl _ _, rfl⟩, rfl, rfl, rfl, rfl, rfl, .none, rfl, rfl⟩
  have hdiscreet : ∀ a, Arguments.parse ["--once"] = .ok a →
      Discreet Replication.checkAddress a.path (dialing "redis://:first@node")
        (dialing "redis://:second@node") ["<cwd>", "config.yaml"] lostNode.world.files
        lostNode.world.files := by
    intro a ha
    obtain rfl : { once := true } = a := Except.ok.inj ((rfl : _ = _).symm.trans ha)
    refine ⟨Environment.twins_cons _ _ _, Agree.refl Entries.Twins.refl _, fun c d hc hd _ => ?_,
      fun c hc => ?_⟩
    · rw [Config.connection_of_loaded rfl hc, Config.connection_of_loaded rfl hd]
      decide +kernel
    · rw [show c = Config.orDefault (.ok c) from rfl, ← hc]
      decide +kernel
  exact ⟨htwins, hdiscreet, by decide +kernel, run_conceals_address htwins hdiscreet {}⟩

/-- **The scheme alone does not decide**: of two addresses with the same scheme `checkAddress` may
refuse just one, for its port, and that shows. -/
theorem not_forall_hasScheme :
    ¬∀ (args : List String) (env : Environment) (url url' : String) (r : Run),
      url ≠ "" → url' ≠ "" → Replication.hasScheme url = Replication.hasScheme url' →
        ((run args (("REDIS_CONNECTION", url) :: env) {}).on r).1 =
          ((run args (("REDIS_CONNECTION", url') :: env) {}).on r).1 := by
  intro h
  have hsame := h ["--once"] primaryVariables "redis://node:6379" "redis://node:70000" {}
    (by decide) (by decide) (by decide)
  have hcode : ((run ["--once"] (dialing "redis://node:6379") {}).on {}).1.toOption.map (·.code) ≠
      ((run ["--once"] (dialing "redis://node:70000") {}).on {}).1.toOption.map (·.code) := by
    decide +kernel
  exact hcode (congrArg (fun e => e.toOption.map (·.code)) hsame)

end CommandLine

end DumpKeeper
