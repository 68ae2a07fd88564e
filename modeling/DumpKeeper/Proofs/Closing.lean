import DumpKeeper.Proofs.Endurance
import DumpKeeper.Proofs.Keeping
import DumpKeeper.Proofs.Validity

/-!
# How the program ends

Those who start the program look at the code that it ends with.  What each code stands for is told
here by the stages that the program goes through: its settings are read and put to use, the endpoint
is started, the store is connected, the node is looked for, and backups are made.  Wherever that
ends, the endpoint is stopped if it was started.

* `Call.isStartup`, `Call.isShutdown` — the calls that are made before the first backup, and the one
  that stops the endpoint.
* `Schedule.FailsOnce`, `Schedule.run_ends` — what the answer of the scheduler stands for.
* `CommandLine.announce`, `CommandLine.serve_eq` — settings put to use, up to the endpoint.
* `CommandLine.Refuses`, `CommandLine.Falls`, `CommandLine.Begins`, `CommandLine.Serves` — the
  stages at which the program may end, and those that it must have reached.
* `CommandLine.Lawful` — what is guaranteed of an end, and `CommandLine.lawful_run`.
-/

set_option autoImplicit false

namespace DumpKeeper

/-! ## Calls -/

/-- The calls that are made before the first backup: those that make the server and the clients, and
the ping of the node. -/
def Call.isStartup : Call → Bool
  | .makeServer .. | .openS3 .. | .openGcs _ | .openRedis _ | .ping => true
  | _ => false

/-- The call that stops the endpoint, `stopServer`. -/
def Call.isShutdown : Call → Bool
  | .stopServer => true
  | _ => false

namespace Act

variable {K : Call → Bool}

/-- Nothing is known of how `t` ends. -/
theorem ends_any {α : Type} (t : Act α) (r : Run) :
    t.Ends r (fun _ _ => True) fun _ _ => True := ⟨fun _ => trivial, fun _ => trivial⟩

/-- A change `g` of anything but the calls and the counters. -/
theorem idles_modify {g : Run → Run} (h : ∀ r, (g r).world.calls = r.world.calls)
    (hm : ∀ r, (g r).metrics = r.metrics) : Act.Keeps (Run.Idles K) (modify g) := fun r =>
  ⟨.of_eq (h r), hm r⟩

end Act

/-! ## The scheduler -/

theorem Endpoint.avoids_pageAnswer {P : Failure → Prop} (page : Page) :
    (pageAnswer page).Avoids P := by
  cases page with
  | metrics =>
    refine .get_bind fun r => ?_
    rcases r.gatherFault with _ | text
    · exact .pure _
    · exact (Act.isAside_say _ _ _).avoids.bind fun _ => .pure _
  | health => exact .get_bind fun r => .pure _
  | missingFile => exact .pure _

/-- What happens while the program waits, `h.act`, never fails for the configuration. -/
theorem Happening.avoids_act (h : Happening) : h.act.Avoids Failure.IsConfig := by
  cases h with
  | change c => exact Act.avoids_modify _
  | ask method target =>
    refine Act.Avoids.bind ?_ fun _ => Act.avoids_modify _
    delta Endpoint.serve
    generalize Endpoint.asked target = where?
    rcases where? with d | ⟨host, path⟩
    · exact .fail nofun
    refine .ite ?_ (.pure _)
    rw [Endpoint.answerTo]
    split
    · exact .ite (.pure _) (.ite (.pure _) ((Endpoint.avoids_pageAnswer _).bind fun _ => .pure _))
    · exact .pure _
    · exact .pure _

theorem Story.avoids_acts (s : Story) :
    ∀ act ∈ s.course.acts, Act.Avoids Failure.IsConfig act := by
  intro act hact
  obtain ⟨happenings, rfl⟩ := Story.exists_of_mem_acts hact
  exact .forM fun h _ => h.avoids_act

namespace Schedule

variable {cycle : Executor → Act (Option String)} {listens : Bool} {c : Course} {x : Executor}
  {interval delay : Duration} {once : Bool} {r : Run}

/-- With `once`, a single cycle of `x` is made, `run` is not asked to stop in the `delay` before it,
and the cycle fails in the run that the delay has left. -/
def FailsOnce (cycle : Executor → Act (Option String)) (listens : Bool) (c : Course) (x : Executor)
    (delay : Duration) (once : Bool) (r : Run) : Prop :=
  once = true ∧ ¬(0 < delay.micros ∧ c.IsCutShort listens) ∧ ∃ cut t f s,
    (passDelay listens c delay).on r = (.ok cut, t) ∧ (cycle x).on t = (.error f, s)

/-- Where the delay is over in `t`, nothing but the cycle is left to fail. -/
theorem failsOnce_iff {cut : Bool} {t : Run}
    (ht : (passDelay listens c delay).on r = (.ok cut, t)) :
    FailsOnce cycle listens c x delay once r ↔
      cut = false ∧ once = true ∧ ∃ f s, (cycle x).on t = (.error f, s) := by
  have hcut : cut = false ↔ ¬(0 < delay.micros ∧ c.IsCutShort listens) := by
    rw [← (passDelay_ends listens c delay r).of_ok ht, Bool.not_eq_true]
  rw [FailsOnce, hcut]
  constructor
  · rintro ⟨honce, hwhole, cut', t', f, s, ht', hs⟩
    cases ht.symm.trans ht'
    exact ⟨hwhole, honce, f, s, hs⟩
  · rintro ⟨hwhole, honce, f, s, hs⟩
    exact ⟨honce, hwhole, cut, t, f, s, ht, hs⟩

/-- Behind the delay the answer is `false` only if a single cycle is asked for and fails. -/
theorem afterDelay_ends (r : Run) :
    (afterDelay cycle listens c x interval once).Ends r
      (fun succeeded _ =>
        succeeded = false ↔ once = true ∧ ∃ f s, (cycle x).on r = (.error f, s))
      fun _ _ => once = false := by
  cases once with
  | false =>
    rw [afterDelay, if_neg Bool.false_ne_true]
    refine (Act.ends_any _ r).bind_of (fun _ _ _ => rfl) fun _ s _ => ?_
    refine (Act.ends_any _ s).bind_of (fun _ _ _ => rfl) fun _ t _ => ?_
    refine (Act.ends_any _ t).bind_of (fun _ _ _ => rfl) fun _ u _ => ?_
    exact Act.Ends.pure (by simp)
  | true =>
    obtain ⟨s, hs, -⟩ := runCycleSafely_on cycle (show (some x).or r.executor = some x from rfl)
    rw [afterDelay, if_pos rfl]
    refine Act.ends_of_ok hs ?_
    rcases hc : (cycle x).on r with ⟨f | key, t⟩
    · simp [Except.isOk, Except.toBool]
    · simp [Except.isOk, Except.toBool]

/-- **What the answer of the scheduler stands for**: it is `false` if a single cycle is asked for
and fails behind the whole delay, and `true` in any other case. -/
theorem run_ends (h : 0 < interval.wholeSeconds)
    (hc : ∀ act ∈ c.acts, Act.Avoids Failure.IsConfig act) (r : Run) :
    (run cycle listens c x interval delay once).Ends r
      (fun succeeded _ => succeeded = false ↔ FailsOnce cycle listens c x delay once r)
      fun f _ => ¬f.IsConfig ∧ ¬FailsOnce cycle listens c x delay once r := by
  have hanswer : (run cycle listens c x interval delay once).Ends r
      (fun succeeded _ => succeeded = false ↔ FailsOnce cycle listens c x delay once r)
      fun _ _ => ¬FailsOnce cycle listens c x delay once r := by
    rcases hp : (passDelay listens c delay).on r with ⟨f | _ | _, t⟩
    · refine Act.ends_of_error (run_on_error h hp) ?_
      rintro ⟨-, -, cut, t', f', s, ht', -⟩
      cases hp.symm.trans ht'
    · rw [failsOnce_iff hp, and_iff_right rfl]
      have hends : (afterDelay cycle listens c x interval once).Ends t _ _ := afterDelay_ends t
      refine ⟨fun hs => hends.of_ok ((run_on_whole h hp).symm.trans hs), fun hs hfails => ?_⟩
      have honce := hends.of_error ((run_on_whole h hp).symm.trans hs)
      cases hfails.1.symm.trans honce
    · rw [failsOnce_iff hp]
      exact Act.ends_of_ok (run_on_cut h hp) (iff_of_false nofun fun hf => nomatch hf.1)
  exact ((avoids_run (fun _ => id) h hc x delay once r).and hanswer).mono (fun _ _ hd => hd.2)
    fun _ _ hf => hf

/-- Whatever `t` comes to, `last` is done in the run that it leaves. -/
theorem thenAlways_snd {α : Type} (t : Act α) (last : Act Unit) (r : Run) :
    ((thenAlways t last).on r).2 = (last.on (t.on r).2).2 := by
  rw [thenAlways, Act.on_bind, Act.on_attempt]
  dsimp only
  rw [Act.on_bind]
  rcases last.on (t.on r).2 with ⟨f | u, s⟩
  · rfl
  · rcases (t.on r).1 with f | a <;> rfl

/-- An answer of `thenAlways t last` is an answer of `t`. -/
theorem ok_of_thenAlways {α : Type} {t : Act α} {last : Act Unit} {r s : Run} {a : α}
    (h : (thenAlways t last).on r = (.ok a, s)) : (t.on r).1 = .ok a := by
  rw [thenAlways, Act.on_bind, Act.on_attempt] at h
  dsimp only at h
  rw [Act.on_bind] at h
  rcases hl : last.on (t.on r).2 with ⟨f | u, v⟩
  · rw [hl] at h
    cases h
  · rw [hl] at h
    rcases ht : (t.on r).1 with f | b
    · rw [ht] at h
      cases h
    · rw [ht] at h
      cases h
      rfl

end Schedule

/-! ## Stages of the command line -/

section Stages

variable {K : Call → Bool}

theorem Store.idles_connect (t : StorageTarget) (h : K (clientCall t) = true) :
    (connect t).Keeps (Run.Idles K) := by
  rw [connect_eq_relaying]
  exact .bind (Act.Keeps.relaying (Act.idles_request h)) fun _ => .pure _

theorem Store.isStartup_clientCall (t : StorageTarget) : (clientCall t).isStartup = true := by
  rw [clientCall]
  cases t.kind <;> rfl

theorem Replication.idles_checkConnection (url : String) (hopen : K (.openRedis url) = true)
    (hping : K .ping = true) : (checkConnection url).Keeps (Run.Idles K) := by
  have hclient : (openClient url).Keeps (Run.Idles K) := by
    refine .get_bind fun r => ?_
    split
    · exact Act.idles_request hopen
    · exact .fail _
  rw [checkConnection, connect_eq_relaying, ask_eq_relaying]
  refine .bind (.get_bind fun r => .ite (.pure _) (.bind hclient.relaying fun _ => ?_))
    fun _ => Act.Keeps.relaying (Act.idles_request hping)
  exact Act.idles_modify (fun _ => rfl) fun _ => rfl

end Stages

namespace CommandLine

open Schedule (Course)

variable {K : Call → Bool} {config : Config} {once : Bool} {course : Course} {r s : Run}

/-! ### Settings -/

/-- `loadConfig` reads settings without a call. -/
theorem idles_loadConfig (path : String) (env : Environment) :
    (loadConfig path env).Keeps (Run.Idles K) := by
  refine .get_bind fun r => ?_
  rcases (Config.load r.world.files (some path) env).run.run [] with ⟨result, journal⟩
  refine .bind (.forM fun e _ => Act.idles_say _ _ _) fun _ => ?_
  rcases result with f | c
  · exact .fail _
  · exact .pure _

/-- So does `setUpJournal` set up the journal. -/
theorem idles_setUpJournal (l : LoggingSettings) : (setUpJournal l).Keeps (Run.Idles K) := by
  refine .get_bind fun r => ?_
  rcases l.configure r.world.files with f | ⟨logging, files⟩
  · exact .fail _
  · refine .bind (Act.idles_modify (fun _ => rfl) fun _ => rfl) fun _ => ?_
    exact .bind (Act.idles_modify (fun _ => rfl) fun _ => rfl) fun _ => Act.idles_say _ _ _

theorem idles_prepare (path : String) (env : Environment) :
    (prepare path env).Keeps (Run.Idles K) :=
  .bind (idles_loadConfig path env) fun _ => .bind (idles_setUpJournal _) fun _ => .pure _

/-- The settings that `prepare` answers are those that were loaded. -/
theorem loaded_of_prepare {path : String} {env : Environment}
    (h : (prepare path env).on r = (.ok config, s)) :
    Config.loaded r.world.files (some path) env = .ok config := by
  have hload : (loadConfig path env).Ends r
      (fun c _ => Config.loaded r.world.files (some path) env = .ok c) fun _ _ => True := by
    refine Act.Ends.get_bind ?_
    rw [Config.loaded, Journaled.answer]
    rcases (Config.load r.world.files (some path) env).run.run [] with ⟨result, journal⟩
    refine (Act.ends_any _ r).bind fun _ t _ => ?_
    rcases result with f | c
    · exact Act.Ends.fail trivial
    · exact Act.Ends.pure rfl
  have hall : (prepare path env).Ends r
      (fun c _ => Config.loaded r.world.files (some path) env = .ok c) fun _ _ => True :=
    hload.bind fun c t hc => (Act.ends_any _ t).bind fun _ _ _ => Act.Ends.pure hc
  exact hall.of_ok h

/-- Backups under settings that `prepare` answers are a whole second apart. -/
theorem wholeSeconds_pos_of_prepare {path : String} {env : Environment}
    (h : (prepare path env).on r = (.ok config, s)) : 0 < config.backup.interval.wholeSeconds :=
  Duration.wholeSeconds_pos (Config.isValid_of_loaded (loaded_of_prepare h)).backup.interval

/-! ### The endpoint -/

/-- The settings of `config` put to use, up to the endpoint; the answer is whether that runs. -/
def announce (config : Config) : Act Bool := do
  if !config.isShowable then fail (.broken .tooManyDigits)
  say .debug .commandLine ("Config: " ++ config.described)
  modify fun r => { r with counting := true }
  startEndpoint config.metrics

/-- The endpoint stopped, if it was `served`. -/
def conclude (served : Bool) : Act Unit := if served then Endpoint.stop else pure ()

/-- **What `serve` does with `config`**: it puts the settings to use, and whatever comes of the
`work` behind that, the endpoint is stopped after it. -/
theorem serve_eq (config : Config) (once : Bool) (course : Course) :
    serve config once course = (do
      let served ← announce config
      Schedule.thenAlways (work config once course) (conclude served)) := by
  rw [serve, announce]
  by_cases h : config.isShowable = true
  · simp only [h, Bool.not_true, Bool.false_eq_true, if_false, bind_assoc]
    rfl
  · simp only [h, Bool.not_false, if_true, bind_assoc]
    rfl

/-- The endpoint that `config` asks for can be had in the run `r`: it is wanted, and the server can
be made at its address. -/
def CanServe (config : Config) (r : Run) : Prop :=
  config.isShowable = true ∧ config.metrics.enabled = true ∧
    r.world.fault? (.makeServer config.metrics.address config.metrics.port) = none

theorem startEndpoint_ends (l : MetricsSettings) (r : Run) :
    (startEndpoint l).Ends r
      (fun served _ => served = true ↔
        l.enabled = true ∧ r.world.fault? (.makeServer l.address l.port) = none)
      fun _ _ => ¬(l.enabled = true ∧ r.world.fault? (.makeServer l.address l.port) = none) := by
  rw [startEndpoint]
  by_cases hl : l.enabled = true
  · rw [if_pos hl, Endpoint.start]
    rcases hf : r.world.fault? (.makeServer l.address l.port) with _ | f
    · refine Act.Ends.bind_ok (by rw [Act.on_attempt, Act.on_request_calm hf]) ?_
      exact (Act.isAside_say _ _ _).ends_bind fun _ _ _ => Act.Ends.pure (by simp [hl])
    · refine Act.Ends.bind_ok (by rw [Act.on_attempt, Act.on_request_fault hf]) ?_
      cases f with
      | system text =>
        exact (Act.isAside_say _ _ _).ends_bind fun _ _ _ => Act.Ends.pure (by simp)
      | _ => exact Act.Ends.fail (by simp)
  · rw [if_neg hl]
    exact (Act.isAside_say _ _ _).ends_bind fun _ _ _ => Act.Ends.pure (by simp [hl])

/-- **The endpoint runs** just when `CanServe config r`. -/
theorem announce_ends (config : Config) (r : Run) :
    (announce config).Ends r (fun served _ => served = true ↔ CanServe config r)
      fun _ _ => ¬CanServe config r := by
  rw [announce]
  by_cases h : config.isShowable = true
  · simp only [h, Bool.not_true, Bool.false_eq_true, if_false]
    refine (Act.isAside_say _ _ _).ends_bind fun _ s hs => ?_
    refine Act.Ends.bind_ok (Act.on_modify _ s) ?_
    have hcan : CanServe config r ↔ config.metrics.enabled = true ∧
        s.world.fault? (.makeServer config.metrics.address config.metrics.port) = none := by
      rw [CanServe, hs]
      exact and_iff_right h
    exact (startEndpoint_ends config.metrics { s with counting := true }).mono
      (fun _ _ hd => hd.trans hcan.symm) fun _ _ hf => hf ∘ hcan.1
  · simp only [h, Bool.not_false, if_true]
    have hfail : Act.Ends (fail (.broken .tooManyDigits) : Act Unit) r (fun _ _ => False)
        fun _ _ => ¬CanServe config r := Act.Ends.fail fun hcan => h hcan.1
    exact hfail.bind fun _ _ hd => hd.elim

theorem idles_announce (config : Config)
    (h : K (.makeServer config.metrics.address config.metrics.port) = true) :
    (announce config).Keeps (Run.Idles K) := by
  have hstart : (startEndpoint config.metrics).Keeps (Run.Idles K) := by
    refine .ite (.bind (Act.Keeps.attempt (Act.idles_request h)) fun answer => ?_)
      (.bind (Act.idles_say _ _ _) fun _ => .pure _)
    rcases answer with f | _
    · cases f with
      | service f =>
        cases f with
        | system text => exact .bind (Act.idles_say _ _ _) fun _ => .pure _
        | _ => exact .fail _
      | _ => exact .fail _
    · exact .bind (Act.idles_say _ _ _) fun _ => .pure _
  have hrest : Act.Keeps (Run.Idles K) (do
      say .debug .commandLine ("Config: " ++ config.described)
      modify fun r : Run => { r with counting := true }
      startEndpoint config.metrics) :=
    .bind (Act.idles_say _ _ _) fun _ => .bind (Act.idles_modify (fun _ => rfl) fun _ => rfl)
      fun _ => hstart
  exact .ite (.bind (.fail _) fun _ => hrest) hrest

/-- `conclude` stops the endpoint once if it was `served`, and not at all otherwise. -/
theorem calls_conclude (served : Bool) (r : Run) :
    ((conclude served).on r).2.world.calls =
        r.world.calls ++ (if served then [.stopServer] else []) ∧
      ((conclude served).on r).2.metrics = r.metrics := by
  cases served with
  | false => exact ⟨(List.append_nil _).symm, rfl⟩
  | true =>
    rw [conclude, if_pos rfl, Endpoint.stop, Act.on_bind, Act.on_request]
    rcases (r.world.ask .stopServer).1 with f | u
    · exact ⟨rfl, rfl⟩
    · dsimp only [Except.mapError]
      rw [Act.on_say]
      exact ⟨rfl, rfl⟩

/-! ### Backups -/

/-- What is said before `x` makes backups: which dump of which node goes where. -/
def sayTarget (x : Executor) : Act Unit :=
  say .info .commandLine
    ("Backing up " ++ x.config.dumpPath.toString ++ " as node " ++ x.config.redis.nodeName ++
      " to " ++ x.config.storage.kind.name ++ "://" ++ x.config.storage.bucket ++ "/" ++
      x.config.storage.cleanFolder)

/-- A single cycle of `x` fails behind what `sayTarget` says. -/
def CycleFails (x : Executor) (once : Bool) (course : Course) (r : Run) : Prop :=
  ∃ s, (sayTarget x).on r = (.ok (), s) ∧
    Schedule.FailsOnce runCycle true course x x.config.backup.initialDelay once s

/-- The code that `makeBackups` answers is `failure` if a single cycle is asked for and fails, and
`success` otherwise. -/
theorem makeBackups_ends {x : Executor} (h : 0 < x.config.backup.interval.wholeSeconds)
    (hc : ∀ act ∈ course.acts, Act.Avoids Failure.IsConfig act) (r : Run) :
    (makeBackups x once course).Ends r
      (fun code _ => (code = success ∨ code = failure) ∧
        (code = failure ↔ CycleFails x once course r))
      fun _ _ => ¬CycleFails x once course r := by
  obtain ⟨s, hsay, -⟩ : ∃ s, (sayTarget x).on r = (.ok (), s) ∧ r.Noted s :=
    Act.say_noted _ _ _ r
  have hfails : CycleFails x once course r ↔
      Schedule.FailsOnce runCycle true course x x.config.backup.initialDelay once s := by
    constructor
    · rintro ⟨s', hs', hf⟩
      cases hsay.symm.trans hs'
      exact hf
    · exact fun hf => ⟨s, hsay, hf⟩
  rw [hfails, makeBackups]
  refine Act.Ends.bind_ok hsay ?_
  refine Act.Ends.attempt (Schedule.run_ends h hc s) (fun succeeded t hd => ?_) fun f t hf => ?_
  · refine Act.Ends.pure ?_
    rw [← hd]
    cases succeeded <;> simp [success, failure]
  · cases f with
    | config e => exact (hf.1 ⟨e, rfl⟩).elim
    | _ => exact Act.Ends.fail hf.2

/-- Backups can begin: the `store` is connected, and the node is there as far as its role matters.
The run is `t` then. -/
def Ready (config : Config) (r : Run) (store : Store) (t : Run) : Prop :=
  ∃ s, (Store.connect config.storage).on r = (.ok store, s) ∧
    (checkNode config.redis).on s = (.ok true, t)

/-- **The ways in which the program falls short** of what it is to do with `config` in the run
`r`. -/
inductive Falls (config : Config) (once : Bool) (course : Course) (r : Run) : Prop
  /-- The store cannot be connected. -/
  | noStore {e : StorageError} {s : Run}
      (refused : (Store.connect config.storage).on r = (.error (.storage e), s))
  /-- The role of the node matters, and there is no client for it, or no sign of life. -/
  | noNode {store : Store} {e : RoleError} {s t : Run}
      (connected : (Store.connect config.storage).on r = (.ok store, s))
      (matters : config.redis.backupMaster ≠ config.redis.backupReplica)
      (silent : (Replication.checkConnection config.redis.connection).on s = (.error (.role e), t))
  /-- A single cycle is asked for, and fails. -/
  | badCycle {store : Store} {t : Run} (ready : Ready config r store t)
      (fails : CycleFails ⟨config, store⟩ once course t)

/-- `checkNode` finds the node not to be there if its role matters and it gives no sign of life. -/
theorem checkNode_ends (l : RedisSettings) (r : Run) :
    (checkNode l).Ends r
      (fun there _ => there = false ↔ l.backupMaster ≠ l.backupReplica ∧ ∃ e s,
        (Replication.checkConnection l.connection).on r = (.error (.role e), s))
      fun _ _ => ¬(l.backupMaster ≠ l.backupReplica ∧ ∃ e s,
        (Replication.checkConnection l.connection).on r = (.error (.role e), s)) := by
  rw [checkNode]
  by_cases hd : l.backupMaster = l.backupReplica
  · rw [if_neg (by simp [RedisSettings.roleMatters, hd])]
    exact Act.Ends.pure (by simp [hd])
  · rw [if_pos (by simp [RedisSettings.roleMatters, hd])]
    rcases hp : (Replication.checkConnection l.connection).on r with ⟨f | u, s⟩
    · refine Act.Ends.bind_ok (by rw [Act.on_attempt, hp]) ?_
      cases f with
      | role e =>
        exact (Act.isAside_say _ _ _).ends_bind fun _ _ _ => Act.Ends.pure (by simp [hd])
      | _ => exact Act.Ends.fail (by simp)
    · refine Act.Ends.bind_ok (by rw [Act.on_attempt, hp]) ?_
      exact Act.Ends.pure (by simp)

/-- Where the `store` is connected, the program falls short on the node or on a cycle. -/
theorem falls_iff {store : Store}
    (hs : (Store.connect config.storage).on r = (.ok store, s)) :
    Falls config once course r ↔
      (config.redis.backupMaster ≠ config.redis.backupReplica ∧ ∃ e t,
        (Replication.checkConnection config.redis.connection).on s = (.error (.role e), t)) ∨
      ∃ t, (checkNode config.redis).on s = (.ok true, t) ∧
        CycleFails ⟨config, store⟩ once course t := by
  constructor
  · rintro (refused | ⟨connected, matters, silent⟩ | ⟨⟨s', connected, checked⟩, fails⟩)
    · cases hs.symm.trans refused
    · cases hs.symm.trans connected
      exact .inl ⟨matters, _, _, silent⟩
    · cases hs.symm.trans connected
      exact .inr ⟨_, checked, fails⟩
  · rintro (⟨matters, e, t, silent⟩ | ⟨t, checked, fails⟩)
    · exact .noNode hs matters silent
    · exact .badCycle ⟨s, hs, checked⟩ fails

/-- **`work` ends with one of two codes**, and it is `failure` just when the program falls short, by
`Falls`. -/
theorem work_ends (h : 0 < config.backup.interval.wholeSeconds)
    (hc : ∀ act ∈ course.acts, Act.Avoids Failure.IsConfig act) (r : Run) :
    (work config once course).Ends r
      (fun code _ => (code = success ∨ code = failure) ∧
        (code = failure ↔ Falls config once course r))
      fun _ _ => ¬Falls config once course r := by
  rw [work, connectStore, bind_assoc]
  rcases hs : (Store.connect config.storage).on r with ⟨f | store, s⟩
  · refine Act.Ends.bind_ok (by rw [Act.on_attempt, hs]) ?_
    cases f with
    | storage e =>
      rw [bind_assoc]
      refine (Act.isAside_say _ _ _).ends_bind fun _ _ _ => Act.Ends.pure ?_
      exact ⟨.inr rfl, iff_of_true rfl (.noStore hs)⟩
    | _ =>
      refine Act.Ends.fail fun hfalls => ?_
      cases hfalls with
      | noStore refused => cases hs.symm.trans refused
      | noNode connected => cases hs.symm.trans connected
      | badCycle ready => cases hs.symm.trans ready.choose_spec.1
  · refine Act.Ends.bind_ok (by rw [Act.on_attempt, hs]) ?_
    -- the store is there, so the node and the cycle are left to fall short on
    rw [falls_iff hs, pure_bind]
    dsimp only
    rcases hn : (checkNode config.redis).on s with ⟨f | _ | _, t⟩
    · have hnode := (checkNode_ends config.redis s).of_error hn
      refine Act.ends_of_error (Act.on_bind_error hn) ?_
      rintro (hfalls | ⟨_, ⟨⟩, -⟩)
      exact hnode hfalls
    · have hnode := ((checkNode_ends config.redis s).of_ok hn).1 rfl
      refine Act.Ends.bind_ok hn (Act.Ends.pure ⟨.inr rfl, iff_of_true rfl (.inl hnode)⟩)
    · have hnode := (checkNode_ends config.redis s).of_ok hn
      have hcycle : ((config.redis.backupMaster ≠ config.redis.backupReplica ∧ ∃ e t',
          (Replication.checkConnection config.redis.connection).on s = (.error (.role e), t')) ∨
          ∃ t', ((.ok true, t) : Except Failure Bool × Run) = (.ok true, t') ∧
            CycleFails ⟨config, store⟩ once course t') ↔
          CycleFails ⟨config, store⟩ once course t := by
        refine ⟨?_, fun hf => .inr ⟨t, rfl, hf⟩⟩
        rintro (hfalls | ⟨_, ⟨⟩, hf⟩)
        · cases hnode.2 hfalls
        · exact hf
      rw [hcycle]
      exact Act.Ends.bind_ok hn (makeBackups_ends h hc t)

/-! ### Calls -/

theorem idles_connectStore (t : StorageTarget) (h : K (Store.clientCall t) = true) :
    (connectStore t).Keeps (Run.Idles K) := by
  refine .bind (Store.idles_connect t h).attempt fun answer => ?_
  rcases answer with f | store
  · cases f with
    | storage e => exact .bind (Act.idles_say _ _ _) fun _ => .pure _
    | _ => exact .fail _
  · exact .pure _

/-- A store that `connectStore` answers was connected. -/
theorem connectStore_ends (t : StorageTarget) (r : Run) :
    (connectStore t).Ends r
      (fun found s => ∀ store, found = some store → (Store.connect t).on r = (.ok store, s))
      fun _ _ => True := by
  rw [connectStore]
  rcases hs : (Store.connect t).on r with ⟨f | store, s⟩
  · refine Act.Ends.bind_ok (by rw [Act.on_attempt, hs]) ?_
    cases f with
    | storage e => exact (Act.ends_any _ s).bind fun _ _ _ => Act.Ends.pure nofun
    | _ => exact Act.Ends.fail trivial
  · refine Act.Ends.bind_ok (by rw [Act.on_attempt, hs]) (Act.Ends.pure ?_)
    rintro _ ⟨⟩
    rfl

theorem idles_checkNode (l : RedisSettings) (hopen : K (.openRedis l.connection) = true)
    (hping : K .ping = true) : (checkNode l).Keeps (Run.Idles K) := by
  refine .ite (.bind (Replication.idles_checkConnection _ hopen hping).attempt fun answer => ?_)
    (.pure _)
  rcases answer with f | _
  · cases f with
    | role e => exact .bind (Act.idles_say _ _ _) fun _ => .pure _
    | _ => exact .fail _
  · exact .pure _

/-- **Where backups cannot begin**, `work` makes clients at most, and nothing is counted. -/
theorem idles_work (hK : ∀ c : Call, c.isStartup = true → K c = true)
    (h : ∀ store t, ¬Ready config r store t) : r.Idles K ((work config once course).on r).2 := by
  have hconnect := idles_connectStore config.storage (hK _ (Store.isStartup_clientCall _)) r
  have hfound := connectStore_ends config.storage r
  rw [work, Act.on_bind]
  rcases hs : (connectStore config.storage).on r with ⟨f | _ | store, s⟩
  · rwa [hs] at hconnect
  · rwa [hs] at hconnect
  rw [hs] at hconnect
  have hcheck := idles_checkNode config.redis (hK _ rfl) (hK .ping rfl) s
  dsimp only
  rw [Act.on_bind]
  rcases hn : (checkNode config.redis).on s with ⟨f | _ | _, t⟩
  · rw [hn] at hcheck
    exact Run.IsFrame.trans hconnect hcheck
  · rw [hn] at hcheck
    exact Run.IsFrame.trans hconnect hcheck
  · exact (h store t ⟨s, hfound.of_ok hs store rfl, hn⟩).elim

/-- While the program does its `work`, the endpoint is not stopped. -/
theorem calls_work (once : Bool) (h : 0 < config.backup.interval.wholeSeconds) (story : Story) :
    (work config once story.course).Keeps (Run.Calls fun c => !c.isShutdown) := by
  have hcycle : ∀ x, (runCycle x).Keeps (Run.Calls fun c => !c.isShutdown) := fun x =>
    ((isModest_runCycle x).mono fun c hc => by cases c <;> first | rfl | cases hc).calls
  have hschedules : ∀ c : Call, c.isSchedules = true → (!c.isShutdown) = true := fun c hc => by
    cases c <;> first | rfl | cases hc
  refine .bind (idles_connectStore _ ?_).calls fun found => ?_
  · rw [Store.clientCall]
    cases config.storage.kind <;> rfl
  rcases found with _ | store
  · exact .pure _
  refine .bind (idles_checkNode _ rfl rfl).calls fun there => .ite ?_ (.pure _)
  refine .bind (Act.idles_say _ _ _).calls fun _ => .bind (Act.Keeps.attempt ?_) fun answer => ?_
  · rw [Schedule.run_eq _ _ _ _ _ _ h]
    obtain ⟨hmeanwhile, hticks⟩ := List.forall_mem_cons.1
      (story.calls_acts (K := fun c => !c.isShutdown) fun _ _ => rfl)
    refine .bind (Schedule.calls_passDelay hschedules _ _ hmeanwhile) fun cut => .ite (.pure _) ?_
    exact Schedule.calls_afterDelay hschedules hcycle hticks _ _ _
  · rcases answer with f | _
    · cases f with
      | config e => exact .bind (Act.idles_say _ _ _).calls fun _ => .pure _
      | _ => exact .fail _
    · exact .pure _

/-! ## How the program ends -/

/-- The settings that `a` and `env` make are refused by `prepare`: they cannot be read, or the
journal cannot be set up by them. -/
def Refuses (a : Arguments) (env : Environment) (r : Run) : Prop :=
  ∃ e s, (prepare a.path env).on r = (.error (.config e), s)

/-- The settings are good, and are put to use in `s`; `served` tells whether the endpoint runs. -/
def Uses (a : Arguments) (env : Environment) (r : Run) (config : Config) (served : Bool)
    (s : Run) : Prop :=
  ∃ t, (prepare a.path env).on r = (.ok config, t) ∧ (announce config).on t = (.ok served, s)

/-- The settings are good, and the program falls short of what it is to do with them, by `Falls`. -/
def Fails (a : Arguments) (env : Environment) (course : Course) (r : Run) : Prop :=
  ∃ config served s, Uses a env r config served s ∧ Falls config a.once course s

/-- The start succeeds: the settings are used, and `Ready` holds behind that. -/
def Begins (a : Arguments) (env : Environment) (r : Run) : Prop :=
  ∃ config served s store t, Uses a env r config served s ∧ Ready config s store t

/-- The settings are good, and the endpoint is started, by `CanServe`. -/
def Serves (a : Arguments) (env : Environment) (r : Run) : Prop :=
  ∃ config t, (prepare a.path env).on r = (.ok config, t) ∧ CanServe config t

/-- **What is guaranteed of an end**: of the code in `answer`, if there is one, and of the run `s`
that is left, when the program with the arguments `a` and the variables `env` was begun in the run
`r`. -/
structure Lawful (a : Arguments) (env : Environment) (course : Course) (r : Run)
    (answer : Except Failure Ending) (s : Run) : Prop where
  /-- One code stands for settings that are refused. -/
  refuses : ∀ e, answer = .ok e → (e.code = badConfig ↔ Refuses a env r)
  /-- One code stands for a start that failed, or for a single cycle that did. -/
  fails : ∀ e, answer = .ok e → (e.code = failure ↔ Fails a env course r)
  /-- One code stands for all else. -/
  succeeds : ∀ e, answer = .ok e → (e.code = success ↔ ¬Refuses a env r ∧ ¬Fails a env course r)
  /-- Unless backups can begin, clients and the server are made at most, the server is stopped, and
  nothing is counted. -/
  idles : ¬Begins a env r → r.Idles (fun c => c.isStartup || c.isShutdown) s
  /-- An endpoint that is started is stopped once, as the last thing, whether there is a code or
  not. -/
  stops : Serves a env r → ∃ made, s.world.calls = r.world.calls ++ made ++ [.stopServer] ∧
    ∀ c ∈ made, c.isShutdown = false
  /-- An endpoint that is not started is not stopped. -/
  spares : ¬Serves a env r → r.Calls (fun c => !c.isShutdown) s

/-- `serve` answers one of two codes. -/
theorem serve_ends (h : 0 < config.backup.interval.wholeSeconds)
    (hc : ∀ act ∈ course.acts, Act.Avoids Failure.IsConfig act) (r : Run) :
    (serve config once course).Ends r
      (fun code _ => ∃ served s, (announce config).on r = (.ok served, s) ∧
        (code = success ∨ code = failure) ∧ (code = failure ↔ Falls config once course s))
      fun _ _ => True := by
  rw [serve_eq]
  refine ⟨fun hv => ?_, fun _ => trivial⟩
  rcases ha : (announce config).on r with ⟨f | served, s⟩
  · rw [Act.on_bind_error ha] at hv
    cases hv
  · rw [Act.on_bind_ok ha] at hv
    refine ⟨served, s, rfl, ?_⟩
    have hwork := Schedule.ok_of_thenAlways hv
    exact (work_ends h hc s).of_ok (Prod.ext hwork rfl)

theorem idles_serve (config : Config) (once : Bool) (course : Course) {r : Run}
    (h : ∀ served s store t, (announce config).on r = (.ok served, s) → ¬Ready config s store t) :
    r.Idles (fun c => c.isStartup || c.isShutdown) ((serve config once course).on r).2 := by
  have hannounce := idles_announce (K := fun c => c.isStartup || c.isShutdown) config rfl r
  rw [serve_eq, Act.on_bind]
  rcases ha : (announce config).on r with ⟨f | served, s⟩
  · rwa [ha] at hannounce
  rw [ha] at hannounce
  dsimp only
  rw [Schedule.thenAlways_snd]
  have hwork : s.Idles (fun c => c.isStartup || c.isShutdown) ((work config once course).on s).2 :=
    idles_work (fun c hc => by rw [hc, Bool.true_or]) fun store t => h served s store t ha
  obtain ⟨hcalls, hmetrics⟩ := calls_conclude served ((work config once course).on s).2
  refine Run.IsFrame.trans hannounce (Run.IsFrame.trans hwork ⟨⟨_, hcalls, ?_⟩, hmetrics⟩)
  cases served <;> simp [Call.isShutdown]

/-- Whatever `serve` leads to, the endpoint is stopped behind it if it runs. -/
theorem calls_serve (once : Bool) (h : 0 < config.backup.interval.wholeSeconds) (story : Story)
    (r : Run) :
    ∃ served made, (served = true ↔ CanServe config r) ∧
      ((serve config once story.course).on r).2.world.calls =
        r.world.calls ++ made ++ (if served then [.stopServer] else []) ∧
      ∀ c ∈ made, c.isShutdown = false := by
  have hannounce := (idles_announce (K := fun c => !c.isShutdown) config rfl r).calls
  have hends := announce_ends config r
  rw [serve_eq, Act.on_bind]
  rcases ha : (announce config).on r with ⟨f | served, s⟩
  · rw [ha] at hannounce
    obtain ⟨made, hmade, hnone⟩ := hannounce
    refine ⟨false, made, iff_of_false nofun (hends.of_error ha), ?_, ?_⟩
    · rw [if_neg Bool.false_ne_true, List.append_nil]
      exact hmade
    · simpa using hnone
  · rw [ha] at hannounce
    dsimp only
    rw [Schedule.thenAlways_snd, (calls_conclude served _).1]
    obtain ⟨made, hmade, hnone⟩ := hannounce.trans (calls_work once h story s)
    refine ⟨served, made, hends.of_ok ha, by rw [hmade], ?_⟩
    simpa using hnone

/-- No `code` is given for two reasons. -/
theorem code_iff {code : Nat} (h : code = success ∨ code = failure) :
    ¬code = badConfig ∧ (code = success ↔ ¬code = failure) := by
  rcases h with rfl | rfl
  · exact ⟨by decide, by decide⟩
  · exact ⟨by decide, by decide⟩

section Ends

variable {a : Arguments} {env : Environment} {t : Run}

/-- Where `prepare` has no settings to answer, nothing else is done. -/
theorem lawful_of_error {f : Failure} {answer : Except Failure Ending}
    (hp : (prepare a.path env).on r = (.error f, t))
    (hanswer : ∀ e, answer = .ok e → f.IsConfig ∧ e.code = badConfig) :
    Lawful a env course r answer t := by
  have hprepare : ∀ K, (prepare a.path env).Keeps (Run.Idles K) := fun _ => idles_prepare a.path env
  have hidle : ∀ K, r.Idles K t := fun K => by
    have hr := hprepare K r
    rwa [hp] at hr
  have hrefuses : Refuses a env r ↔ f.IsConfig := by
    constructor
    · rintro ⟨e, s, hs⟩
      cases hp.symm.trans hs
      exact ⟨e, rfl⟩
    · rintro ⟨e, rfl⟩
      exact ⟨e, t, hp⟩
  -- the settings have one outcome, so no stage behind them is reached
  have hfails : ¬Fails a env course r := by
    rintro ⟨config, served, s, ⟨u, hu, -⟩, -⟩
    cases hp.symm.trans hu
  have hserves : ¬Serves a env r := by
    rintro ⟨config, u, hu, -⟩
    cases hp.symm.trans hu
  refine ⟨fun e he => ?_, fun e he => ?_, fun e he => ?_, fun _ => hidle _,
    fun h => (hserves h).elim, fun _ => (hidle _).calls⟩
  · obtain ⟨hf, hcode⟩ := hanswer e he
    exact iff_of_true hcode (hrefuses.2 hf)
  · obtain ⟨-, hcode⟩ := hanswer e he
    exact iff_of_false (by rw [hcode]; decide) hfails
  · obtain ⟨hf, hcode⟩ := hanswer e he
    exact iff_of_false (by rw [hcode]; decide) fun h => h.1 (hrefuses.2 hf)

/-- Where `prepare` answers settings, the end is that of their use by `serve`. -/
theorem lawful_of_ok (story : Story) (hp : (prepare a.path env).on r = (.ok config, t)) :
    Lawful a env story.course r
      (Act.on (do return { code := ← serve config a.once story.course } : Act Ending) t).1
      (Act.on (do return { code := ← serve config a.once story.course } : Act Ending) t).2 := by
  have hpos := wholeSeconds_pos_of_prepare hp
  have hidle : r.Idles (fun _ => false) t := by
    have hr : r.Idles (fun _ => false) ((prepare a.path env).on r).2 := idles_prepare a.path env r
    rwa [hp] at hr
  have hserve : Act.on (do return { code := ← serve config a.once story.course } : Act Ending) t =
      (((serve config a.once story.course).on t).1.map fun code => { code := code },
        ((serve config a.once story.course).on t).2) := by
    rw [Act.on_bind]
    rcases (serve config a.once story.course).on t with ⟨f | code, u⟩ <;> rfl
  rw [hserve]
  dsimp only
  have hrefuses : ¬Refuses a env r := by
    rintro ⟨e, s, hs⟩
    cases hp.symm.trans hs
  have hcode : ∀ e : Ending, (((serve config a.once story.course).on t).1.map
      fun code => ({ code := code } : Ending)) = .ok e →
      (e.code = success ∨ e.code = failure) ∧ (e.code = failure ↔ Fails a env story.course r) := by
    intro e he
    rcases hs : (serve config a.once story.course).on t with ⟨f | code, u⟩
    · rw [hs] at he
      cases he
    rw [hs] at he
    cases he
    obtain ⟨served, s, ha, hcodes, hfails⟩ := (serve_ends hpos story.avoids_acts t).of_ok hs
    refine ⟨hcodes, hfails.trans ⟨fun hf => ⟨config, served, s, ⟨t, hp, ha⟩, hf⟩, ?_⟩⟩
    rintro ⟨config', served', s', ⟨t', hp', ha'⟩, hf⟩
    cases hp.symm.trans hp'
    cases ha.symm.trans ha'
    exact hf
  have hcan : Serves a env r ↔ CanServe config t := by
    constructor
    · rintro ⟨config', t', hp', hcan⟩
      cases hp.symm.trans hp'
      exact hcan
    · exact fun hcan => ⟨config, t, hp, hcan⟩
  obtain ⟨served, made, hserved, hcalls, hnone⟩ := calls_serve a.once hpos story t
  obtain ⟨before, hbefore, hnothing⟩ := hidle.calls
  obtain rfl : before = [] :=
    List.eq_nil_iff_forall_not_mem.2 fun c hc => Bool.false_ne_true (hnothing c hc)
  have hcalls' : ((serve config a.once story.course).on t).2.world.calls =
      r.world.calls ++ made ++ (if served then [.stopServer] else []) := by
    rw [hcalls, hbefore, List.append_nil]
  refine ⟨fun e he => ?_, fun e he => (hcode e he).2, fun e he => ?_, fun hbegins => ?_,
    fun hserves => ?_, fun hspared => ?_⟩
  · exact iff_of_false (code_iff (hcode e he).1).1 hrefuses
  · rw [(code_iff (hcode e he).1).2, (hcode e he).2]
    exact (and_iff_right hrefuses).symm
  · have hearly : r.Idles (fun c => c.isStartup || c.isShutdown) t :=
      ⟨hidle.calls.mono fun c hc => (Bool.false_ne_true hc).elim, hidle.metrics⟩
    refine Run.IsFrame.trans hearly (idles_serve config a.once story.course ?_)
    exact fun served s store u ha hready =>
      hbegins ⟨config, served, s, store, u, ⟨t, hp, ha⟩, hready⟩
  · rw [hserved.2 (hcan.1 hserves), if_pos rfl] at hcalls'
    exact ⟨made, hcalls', hnone⟩
  · rw [Bool.eq_false_iff.2 fun hs => hspared (hcan.2 (hserved.1 hs)), if_neg Bool.false_ne_true,
      List.append_nil] at hcalls'
    exact ⟨made, hcalls', by simpa using hnone⟩

end Ends

/-- **What is guaranteed of every end** of `run`, for arguments that are understood: whatever the
settings are, whatever fails, and whatever happens while the program waits. -/
theorem lawful_run {args : List String} {a : Arguments} (h : Arguments.parse args = .ok a)
    (env : Environment) (story : Story) (r : Run) :
    Lawful a env story.course r ((run args env story.course).on r).1
      ((run args env story.course).on r).2 := by
  rw [run, h]
  dsimp only
  rw [Act.on_bind, Act.on_attempt]
  rcases hp : (prepare a.path env).on r with ⟨f | config, t⟩
  · cases f with
    | config e =>
      refine lawful_of_error hp fun _ he => ?_
      cases he
      exact ⟨⟨e, rfl⟩, rfl⟩
    | _ => exact lawful_of_error hp nofun
  · exact lawful_of_ok story hp

/-! ### A node that is lost -/

/-- The variables of a program that serves its counters and backs up a primary only, without a
delay. -/
def primaryVariables : Environment :=
  [("METRICS_ENABLED", "true"), ("BACKUP_REPLICA", "false"), ("INITIAL_DELAY", "0s")]

/-- A node that answers a ping and then is gone. -/
def lostNode : Run := { world := { faults := [("info", some (.redis "gone"))] } }

/-- **A single cycle fails**: `run` ends with the code `failure`, and the endpoint is stopped. -/
theorem lawful_run_lostNode :
    Arguments.parse ["--once"] = .ok { once := true } ∧
    Lawful { once := true } primaryVariables {} lostNode
      ((run ["--once"] primaryVariables {}).on lostNode).1
      ((run ["--once"] primaryVariables {}).on lostNode).2 ∧
    ((run ["--once"] primaryVariables {}).on lostNode).1.toOption.map (·.code) = some failure ∧
    ((run ["--once"] primaryVariables {}).on lostNode).2.world.calls.map Call.name =
      ["make_server", "s3_client", "from_url", "ping", "info", "server_shutdown"] := by
  have hparse : Arguments.parse ["--once"] = .ok { once := true } := rfl
  exact ⟨hparse, lawful_run hparse primaryVariables {} lostNode, by decide +kernel,
    by decide +kernel⟩

end CommandLine

end DumpKeeper
