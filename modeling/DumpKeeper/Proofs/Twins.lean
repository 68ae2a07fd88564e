import DumpKeeper.Proofs.Keeping
import DumpKeeper.Proofs.Trees

/-!
# Twins

Two runs are twins if nobody can tell them apart but by the address at which the node is reached:
by what a client is made with, by the executor of the scheduler, which keeps its settings, and by
the file that the settings were read from.  Whatever the program does in one of them it does in the
other, and they stay twins.

* `Call.veiled`, `Config.redial` — a call without that address, and settings with another one.
* `Executor.Twins`, `World.Twins`, `Run.Twins` — what differs in nothing else.
* `Act.IsModest.twins` — modest acts do the same in twins, and `twins_runCycle` — so do cycles.
* `Schedule.twins_run`, `Happening.twins_act` — so do the scheduler, and what happens meanwhile.
-/

set_option autoImplicit false

namespace DumpKeeper

/-! ## What differs -/

/-- A call without the address of the node. -/
def Call.veiled : Call → Call
  | .openRedis _ => .openRedis ""
  | c => c

theorem Call.name_veiled (c : Call) : c.veiled.name = c.name := by
  cases c <;> rfl

/-- The settings `c`, but the address of the node is `url`. -/
def Config.redial (c : Config) (url : String) : Config :=
  { c with redis := { c.redis with connection := url } }

/-- The executor `x`, but the address of its node is `url`. -/
def Executor.redial (x : Executor) (url : String) : Executor :=
  { x with config := x.config.redial url }

section

variable (cwd place : List String) (check : String → Except String Unit)

/-- The settings `c` and `d` differ in the address of the node only. -/
structure Config.Twins (c d : Config) : Prop where
  /-- All other settings are the same. -/
  redial : d = c.redial d.redis.connection
  /-- If the role of the node matters, the check of the two addresses comes to the same. -/
  address : c.redis.roleMatters = true →
    check c.redis.connection = check d.redis.connection
  /-- The dump is not the file at the place. -/
  dump : c.dumpPath.leadsTo cwd ≠ place

/-- The settings of the executors `x` and `y` are twins, and they have the same store. -/
structure Executor.Twins (x y : Executor) : Prop where
  config : Config.Twins cwd place check x.config y.config
  store : x.store = y.store

/-- The worlds `w` and `v` differ in the file at `place`, and in the address of the node in
calls. -/
structure World.Twins (w v : World) : Prop where
  /-- Paths lead on from the folder told. -/
  cwd : w.files.cwd = cwd
  /-- Addresses are checked in the way told. -/
  checks : w.checkAddress = check
  /-- Everything but files and calls is the same. -/
  view : w.view = v.view
  /-- So are files anywhere else. -/
  files : w.files.AgreesOff place v.files
  /-- So are calls, but for the address. -/
  calls : w.calls.map Call.veiled = v.calls.map Call.veiled

/-- **The runs `r` and `s` cannot be told apart** but by the address of the node. -/
structure Run.Twins (r s : Run) : Prop where
  /-- The worlds are twins. -/
  world : World.Twins cwd place check r.world s.world
  /-- The same was said. -/
  journal : r.journal = s.journal
  /-- The same is left unsaid. -/
  level : r.level = s.level
  /-- The same was counted. -/
  metrics : r.metrics = s.metrics
  /-- There is a client in both, or in none. -/
  connected : r.connected = s.connected
  /-- The timers are the same. -/
  timer : r.timer = s.timer
  /-- Their executors are twins. -/
  executor : Option.Rel (Executor.Twins cwd place check) r.executor s.executor
  counting : r.counting = s.counting
  gatherFault : r.gatherFault = s.gatherFault

end

variable {cwd place : List String} {check : String → Except String Unit}

/-! ## Worlds -/

namespace World.Twins

variable {w v : World}

theorem faults (h : World.Twins cwd place check w v) : w.faults = v.faults :=
  (congrArg World.faults h.view :)

theorem now (h : World.Twins cwd place check w v) : w.now = v.now := (congrArg World.now h.view :)

theorem info (h : World.Twins cwd place check w v) : w.info = v.info :=
  (congrArg World.info h.view :)

theorem checkAddress (h : World.Twins cwd place check w v) : w.checkAddress = v.checkAddress :=
  (congrArg World.checkAddress h.view :)

theorem record (h : World.Twins cwd place check w v) {c d : Call} (hc : c.veiled = d.veiled) :
    World.Twins cwd place check (w.record c) (v.record d) where
  cwd := h.cwd
  checks := h.checks
  view := h.view
  files := h.files
  calls := by simp only [World.record, List.map_append, h.calls, List.map_cons, hc, List.map_nil]

/-- A change `g` that does not look at files and calls leaves twins. -/
theorem blind (h : World.Twins cwd place check w v) {g : World → World} (hg : World.Blind g) :
    World.Twins cwd place check (g w) (g v) where
  cwd := by rw [hg.files, h.cwd]
  checks := by rw [hg.checkAddress, h.checks]
  view := by rw [hg.view, hg.view, h.view]
  files := by
    rw [hg.files, hg.files]
    exact h.files
  calls := by rw [hg.calls, hg.calls, h.calls]

/-- **The calls `c` and `d` come to the same in twins**, if they differ in the address only. -/
theorem ask (h : World.Twins cwd place check w v) {c d : Call} (hc : c.veiled = d.veiled) :
    (w.ask c).1 = (v.ask d).1 ∧ World.Twins cwd place check (w.ask c).2 (v.ask d).2 := by
  have hname : c.name = d.name := by rw [← c.name_veiled, hc, d.name_veiled]
  have hrecord := h.record hc
  rw [World.ask, World.ask, ← hname]
  exact ⟨by simp only [meet, hrecord.faults], hrecord.blind (.meet c.name)⟩

theorem change (h : World.Twins cwd place check w v) (c : Change) :
    World.Twins cwd place check (w.change c) (v.change c) := by
  have hview : ∀ w : World, (w.change c).view = (w.view.change c).view := fun w => by
    cases c <;> rfl
  have hcheck : (w.change c).checkAddress = w.checkAddress := by cases c <;> rfl
  refine ⟨?_, hcheck.trans h.checks, by rw [hview, h.view, ← hview], ?_,
    by rw [calls_change, calls_change, h.calls]⟩
  · cases c with
    | file path content changed => exact (w.files.cwd_write path content changed).trans h.cwd
    | folder path => exact (w.files.cwd_makeFolders path).trans h.cwd
    | _ => exact h.cwd
  · cases c with
    | file path content changed => exact h.files.write path content changed
    | folder path => exact h.files.makeFolders path
    | remove path => exact h.files.remove path
    | refuse call path r => exact h.files.refuse call path r
    | _ => exact h.files

end World.Twins

/-! ## Acts -/

namespace Run.Twins

variable {r s : Run}

/-- A change of the worlds, to `w` and `v`. -/
theorem withWorld (h : Run.Twins cwd place check r s) {w v : World}
    (hw : World.Twins cwd place check w v) :
    Run.Twins cwd place check { r with world := w } { s with world := v } :=
  { h with world := hw }

/-- A cycle cannot tell twins apart, for it looks at the `dump` only. -/
theorem resembles (h : Run.Twins cwd place check r s) {dump : FilePath}
    (hd : dump.leadsTo cwd ≠ place) : r.Resembles dump s :=
  ⟨h.world.view, fun c => h.world.files.ask_eq c (h.world.cwd.symm ▸ hd), h.connected⟩

end Run.Twins

/-- The same is said, by `say`, in twins. -/
theorem twins_say (level : Level) (source : Source) (message : String) :
    Parallel (Run.Twins cwd place check) Eq (say level source message) (say level source message) :=
  .modify fun r s h => by
    by_cases hl : r.level.number ≤ level.number
    · rw [if_pos hl, if_pos (h.level ▸ hl)]
      exact { h with journal := by rw [h.journal] }
    · rw [if_neg hl, if_neg (h.level ▸ hl)]
      exact h

/-- **`request` comes to the same in twins**, if the calls differ in the address only. -/
theorem twins_request {c d : Call} (hc : c.veiled = d.veiled) :
    Parallel (Run.Twins cwd place check) Eq (request c) (request d) := .of_on fun r s h => by
  obtain ⟨hanswer, hworld⟩ := h.world.ask hc
  rw [Act.on_request, Act.on_request, hanswer]
  exact ⟨.of_eq rfl, h.withWorld hworld⟩

theorem twins_changeWorld {g g' : World → World}
    (hg : ∀ w v, World.Twins cwd place check w v → World.Twins cwd place check (g w) (g' v)) :
    Parallel (Run.Twins cwd place check) Eq (changeWorld g) (changeWorld g') :=
  .modify fun _ _ h => h.withWorld (hg _ _ h.world)

/-- **The modest act `t` does the same in twins**, as long as the `dump` is not what they differ
in. -/
theorem Act.IsModest.twins {K : Call → Bool} {dump : FilePath} {α : Type} {t : Act α}
    (h : t.IsModest K dump) (hd : dump.leadsTo cwd ≠ place) :
    Parallel (Run.Twins cwd place check) Eq t t := by
  induction h with
  | pure a => exact .pure rfl
  | fail f => exact .fail f
  | bind _ _ iht ihf => exact iht.bind_eq ihf
  | attempt _ ih => exact ih.attempt.mono fun _ _ hxy => hxy.eq
  | look _ alike ih =>
    refine .get_bind fun r s hrs => ?_
    rw [alike r s (hrs.resembles hd)]
    exact ih s
  | say level source message => exact twins_say level source message
  | tally g => exact .modify fun r s h => { h with metrics := congrArg g h.metrics }
  | request => exact twins_request rfl
  | change blind => exact twins_changeWorld fun _ _ hw => hw.blind blind
  | connected => exact .modify fun r s h => { h with connected := rfl }

/-! ## The node -/

namespace Replication

variable {url url' : String}

/-- **A client is made for either address**, or `connect` refuses both in the same words. -/
theorem twins_connect (h : check url = check url') :
    Parallel (Run.Twins cwd place check) Eq (connect url) (connect url') := by
  have hopen : Parallel (Run.Twins cwd place check) Eq (openClient url) (openClient url') := by
    refine .get_bind fun r s hrs => ?_
    rw [← hrs.world.checkAddress, hrs.world.checks, h]
    split
    · exact twins_request rfl
    · exact .fail _
  rw [connect_eq_relaying, connect_eq_relaying]
  refine .get_bind fun r s hrs => ?_
  rw [hrs.connected]
  refine .ite (.pure rfl) (hopen.relaying.bind_eq fun _ => ?_)
  exact .modify fun r s h => { h with connected := rfl }

theorem twins_ask (c : Call) (report : ServiceFault → RoleError) :
    Parallel (Run.Twins cwd place check) Eq (ask c report) (ask c report) := by
  rw [ask_eq_relaying]
  exact (twins_request rfl).relaying

theorem twins_checkConnection (h : check url = check url') :
    Parallel (Run.Twins cwd place check) Eq (checkConnection url) (checkConnection url') :=
  (twins_connect h).bind_eq fun _ => twins_ask _ _

/-- **Whether the node is backed up** does not depend on its address, by `shouldBackup`. -/
theorem twins_shouldBackup {s : RedisSettings} {url : String}
    (h : s.roleMatters = true → check s.connection = check url) :
    Parallel (Run.Twins cwd place check) Eq (shouldBackup s)
      (shouldBackup { s with connection := url }) := by
  have hsame : RedisSettings.roleMatters { s with connection := url } = s.roleMatters := rfl
  rw [shouldBackup, shouldBackup, hsame]
  by_cases hmatters : s.roleMatters = true
  · rw [if_pos hmatters, if_pos hmatters]
    have hrole : Parallel (Run.Twins cwd place check) Eq (askRole s.connection) (askRole url) := by
      refine (twins_connect (h hmatters)).bind_eq fun _ => (twins_ask _ _).bind_eq fun _ => ?_
      exact .get_bind fun r s hrs => .pure (by rw [hrs.world.info])
    refine hrole.bind_eq fun role => ?_
    refine Parallel.bind_eq (?_ : Parallel _ Eq (sayRole s role) _) fun _ => .pure rfl
    cases role <;> exact twins_say _ _ _
  · rw [if_neg hmatters, if_neg hmatters]
    exact .pure rfl

end Replication

/-! ## Cycles -/

theorem Config.Twins.exists_redial {c d : Config} (h : Config.Twins cwd place check c d) :
    ∃ url, d = c.redial url ∧
      (c.redis.roleMatters = true → check c.redis.connection = check url) :=
  ⟨_, h.redial, h.address⟩

theorem Executor.Twins.exists_redial {x y : Executor} (h : Executor.Twins cwd place check x y) :
    ∃ url, y = x.redial url ∧
      (x.config.redis.roleMatters = true → check x.config.redis.connection = check url) := by
  obtain ⟨url, hd, haddress⟩ := h.config.exists_redial
  refine ⟨url, ?_, haddress⟩
  rw [Executor.redial, ← hd, h.store]

/-- Behind its decision, in `proceed`, a cycle does not look at the address of the node. -/
theorem proceed_redial (x : Executor) (url : String) (selected : Bool) :
    proceed (x.redial url) selected = proceed x selected := rfl

/-- **A cycle, `runCycle`, does the same in twins**, for executors `x` and `y` that are twins. -/
theorem twins_runCycle {x y : Executor} (h : Executor.Twins cwd place check x y) :
    Parallel (Run.Twins cwd place check) Eq (runCycle x) (runCycle y) := by
  have hd := h.config.dump
  have hmodest : ∀ {α : Type} {t : Act α}, t.IsModest Call.isCycles x.config.dumpPath →
      Parallel (Run.Twins cwd place check) Eq t t := fun ht => ht.twins hd
  obtain ⟨url, rfl, haddress⟩ := h.exists_redial
  rw [runCycle_eq_proceed, runCycle_eq_proceed]
  refine (hmodest (.count _)).bind_eq fun _ => Parallel.bind_eq ?_ fun selected => ?_
  · refine (Replication.twins_shouldBackup haddress).attempt_bind fun answer => ?_
    rcases answer with f | selected
    · exact .ite ((hmodest isModest_recordFailure).bind_eq fun _ => .fail f) (.fail f)
    · exact .pure rfl
  -- behind its decision it is one and the same cycle, which only reads the dump
  · rw [proceed_redial]
    exact (isModest_proceed x selected).twins hd

/-! ## The scheduler -/

namespace Schedule

variable {cycle : Executor → Act (Option String)} {listens : Bool} {c : Course} {x y : Executor}

theorem twins_setUp (h : Executor.Twins cwd place check x y) (interval : Duration)
    (now : Option Reading) :
    Parallel (Run.Twins cwd place check) Eq (setUp x interval now) (setUp y interval now) := by
  refine .get_bind fun r s hrs => ?_
  rw [hrs.timer, hrs.world.now]
  refine .ite (.pure rfl) ?_
  rcases nextTick interval.wholeSeconds (now.getD s.world.now) with f | first
  · exact .fail _
  refine Parallel.bind_eq (.modify fun _ _ h' => { h' with executor := .some h }) fun _ => ?_
  refine (twins_request rfl).bind_eq fun _ => ?_
  refine Parallel.bind_eq (.modify fun _ _ h' => { h' with timer := rfl }) fun _ => ?_
  rcases backupJob? interval first with _ | job
  · exact .fail _
  · exact (twins_request rfl).bind_eq fun _ =>
      .modify fun _ _ h' => { h' with timer := by rw [h'.timer] }

theorem twins_start : Parallel (Run.Twins cwd place check) Eq start start := by
  refine .get_bind fun r s hrs => ?_
  rw [hrs.timer]
  rcases s.timer with _ | t
  · exact .fail _
  · refine .ite (twins_say _ _ _) ((twins_request rfl).bind_eq fun _ => ?_)
    refine Parallel.bind_eq (.modify fun _ _ h => { h with timer := rfl }) fun _ => ?_
    exact .forM fun j _ => twins_say _ _ _

theorem twins_stop : Parallel (Run.Twins cwd place check) Eq stop stop := by
  have hforget : Parallel (Run.Twins cwd place check) Eq
      (modify fun r : Run => { r with timer := none, executor := none } : Act Unit)
      (modify fun r : Run => { r with timer := none, executor := none }) :=
    .modify fun _ _ h => { h with timer := rfl, executor := .none }
  refine .get_bind fun r s hrs => ?_
  rw [hrs.timer]
  exact .ite ((twins_request rfl).bind_eq fun _ => (twins_say _ _ _).bind_eq fun _ => hforget)
    hforget

/-- The cycle of the executor `given`, or else of that of the scheduler. -/
theorem twins_runCycleSafely
    (hcycle : ∀ x y, Executor.Twins cwd place check x y →
      Parallel (Run.Twins cwd place check) Eq (cycle x) (cycle y)) {given given' : Option Executor}
    (h : Option.Rel (Executor.Twins cwd place check) given given') :
    Parallel (Run.Twins cwd place check) Eq (runCycleSafely cycle given)
      (runCycleSafely cycle given') := by
  refine .get_bind fun r s hrs => ?_
  have hx : Option.Rel (Executor.Twins cwd place check) (given.or r.executor)
      (given'.or s.executor) := by
    cases h with
    | none => exact hrs.executor
    | some h => exact .some h
  generalize given.or r.executor = x at hx
  generalize given'.or s.executor = y at hx
  cases hx with
  | none => exact .fail _
  | some h =>
    refine (hcycle _ _ h).attempt_bind fun answer => ?_
    rcases answer with f | _ | key
    · exact (twins_say _ _ _).bind_eq fun _ => .pure rfl
    · exact (twins_say _ _ _).bind_eq fun _ => .pure rfl
    · exact .ite ((twins_say _ _ _).bind_eq fun _ => .pure rfl)
        ((twins_say _ _ _).bind_eq fun _ => .pure rfl)

theorem twins_heed (listens : Bool) (stop : Stop) :
    Parallel (Run.Twins cwd place check) Eq (heed listens stop) (heed listens stop) := by
  cases stop with
  | direct => exact .pure rfl
  | signal name => exact .ite ((twins_say _ _ _).bind_eq fun _ => .pure rfl) (.pure rfl)

theorem twins_heedAny (listens : Bool) (stop? : Option Stop) :
    Parallel (Run.Twins cwd place check) Eq (heedAny listens stop?) (heedAny listens stop?) := by
  rcases stop? with _ | stop
  · exact .pure rfl
  · exact twins_heed listens stop

theorem twins_waitDelay (listens : Bool) (delay : Duration)
    (h : Parallel (Run.Twins cwd place check) Eq c.meanwhile c.meanwhile) :
    Parallel (Run.Twins cwd place check) Eq (waitDelay listens c delay)
      (waitDelay listens c delay) := by
  refine (twins_heedAny _ _).bind_eq fun asked => (twins_request rfl).bind_eq fun _ => ?_
  have hbegun : Parallel (Run.Twins cwd place check) Eq
      (do c.meanwhile; heedAny listens c.duringDelay : Act Bool)
      (do c.meanwhile; heedAny listens c.duringDelay) := h.bind_eq fun _ => twins_heedAny _ _
  exact .ite (.pure rfl) (.ite (Parallel.bind_eq (.fail _) fun _ => hbegun) hbegun)

theorem twins_waitTicks
    (hcycle : ∀ x y, Executor.Twins cwd place check x y →
      Parallel (Run.Twins cwd place check) Eq (cycle x) (cycle y))
    (hticks : ∀ before ∈ c.ticks, Parallel (Run.Twins cwd place check) Eq before before) :
    Parallel (Run.Twins cwd place check) Eq (waitTicks cycle listens c)
      (waitTicks cycle listens c) := by
  refine (twins_request rfl).bind_eq fun _ => Parallel.bind_eq (.forM fun before hb => ?_) fun _ =>
    (twins_heed listens _).bind_eq fun _ => .pure rfl
  refine (hticks before hb).bind_eq fun _ => (twins_runCycleSafely hcycle .none).bind_eq fun _ => ?_
  exact twins_changeWorld fun _ _ h => h.record rfl

theorem twins_thenAlways {α : Type} {t u : Act α} {last last' : Act Unit}
    (h : Parallel (Run.Twins cwd place check) Eq t u)
    (hlast : Parallel (Run.Twins cwd place check) Eq last last') :
    Parallel (Run.Twins cwd place check) Eq (thenAlways t last) (thenAlways u last') := by
  refine h.attempt_bind fun answer => hlast.bind_eq fun _ => ?_
  rcases answer with f | a
  · exact .fail f
  · exact .pure rfl

/-- **`Schedule.run` does the same in twins**, as long as cycles do, and what happens meanwhile. -/
theorem twins_run (h : Executor.Twins cwd place check x y)
    (hcycle : ∀ x y, Executor.Twins cwd place check x y →
      Parallel (Run.Twins cwd place check) Eq (cycle x) (cycle y))
    (hacts : ∀ act ∈ c.acts, Parallel (Run.Twins cwd place check) Eq act act)
    (listens : Bool) (interval delay : Duration) (once : Bool) :
    Parallel (Run.Twins cwd place check) Eq (run cycle listens c x interval delay once)
      (run cycle listens c y interval delay once) := by
  obtain ⟨hmeanwhile, hticks⟩ := List.forall_mem_cons.1 hacts
  have hrest : Parallel (Run.Twins cwd place check) Eq (afterDelay cycle listens c x interval once)
      (afterDelay cycle listens c y interval once) := by
    refine .ite (twins_runCycleSafely hcycle (.some h)) ?_
    refine (twins_setUp h interval none).bind_eq fun _ => twins_start.bind_eq fun _ => ?_
    exact (twins_thenAlways (twins_waitTicks hcycle hticks) twins_stop).bind_eq fun _ => .pure rfl
  have hdelay : Parallel (Run.Twins cwd place check) Eq (passDelay listens c delay)
      (passDelay listens c delay) := by
    refine .ite ((twins_say _ _ _).bind_eq fun _ => ?_) (.pure rfl)
    refine (twins_waitDelay listens delay hmeanwhile).bind_eq fun cut => ?_
    exact .ite ((twins_say _ _ _).bind_eq fun _ => .pure rfl) (.pure rfl)
  by_cases hpos : 0 < interval.wholeSeconds
  · rw [run_eq cycle listens c x delay once hpos, run_eq cycle listens c y delay once hpos]
    exact hdelay.bind_eq fun cut => .ite (.pure rfl) hrest
  · rw [run_eq_fail cycle listens c x delay once (by omega),
      run_eq_fail cycle listens c y delay once (by omega)]
    exact .fail _

end Schedule

/-! ## What happens meanwhile -/

namespace Endpoint

theorem twins_answerTo (method : String) (path : List Char) :
    Parallel (Run.Twins cwd place check) Eq (answerTo method path) (answerTo method path) := by
  have hpage : ∀ page, Parallel (Run.Twins cwd place check) Eq (pageAnswer page)
      (pageAnswer page) := by
    intro page
    cases page with
    | metrics =>
      refine .get_bind fun r s hrs => ?_
      rw [hrs.gatherFault, hrs.metrics]
      rcases s.gatherFault with _ | text
      · exact .pure rfl
      · exact (twins_say _ _ _).bind_eq fun _ => .pure rfl
    | health =>
      refine .get_bind fun r s hrs => .pure ?_
      rw [healthPage, healthPage, Schedule.jobs, Schedule.isRunning, hrs.timer, Schedule.jobs,
        Schedule.isRunning]
    | missingFile => exact .pure rfl
  rw [answerTo]
  split
  · exact .ite (.pure rfl) (.ite (.pure rfl) ((hpage _).bind_eq fun _ => .pure rfl))
  · exact .pure rfl
  · exact .pure rfl

theorem twins_serve (method target : String) :
    Parallel (Run.Twins cwd place check) Eq (serve method target) (serve method target) := by
  delta serve
  generalize asked target = where?
  rcases where? with d | ⟨host, path⟩
  · exact .fail _
  · exact .ite (twins_answerTo _ _) (.pure rfl)

end Endpoint

/-- **Whatever happens to twins, they stay twins**, and answers of the endpoint are the same: `act`
of any happening. -/
theorem Happening.twins_act (h : Happening) :
    Parallel (Run.Twins cwd place check) Eq h.act h.act := by
  cases h with
  | change c => exact twins_changeWorld fun _ _ hw => hw.change c
  | ask method target =>
    exact (Endpoint.twins_serve method target).bind_eq fun _ =>
      twins_changeWorld fun _ _ hw => hw.record rfl

theorem Story.twins_acts (s : Story) :
    ∀ act ∈ s.course.acts, Parallel (Run.Twins cwd place check) Eq act act := by
  intro act hact
  obtain ⟨happenings, rfl⟩ := Story.exists_of_mem_acts hact
  exact .forM fun h _ => h.twins_act

end DumpKeeper
