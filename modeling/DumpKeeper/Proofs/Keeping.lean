import DumpKeeper.CommandLine
import DumpKeeper.Proofs.Modest
import DumpKeeper.Proofs.Timer

/-!
# What acts keep

Some relations between runs need only be known of single acts to be known of all that is put
together from them.  Here they are followed through the scheduler, the endpoint and the command
line.

* `Run.IsFrame` — a relation that holds between a run and itself, and from step to step.
  `Run.Calls K` is one, and so is `Run.Idles K`: calls of the kind `K` were made at most, and
  nothing was counted.
* `Act.Keeps R t` — however `t` ends, `R` holds between the run before it and the run after it.
* `Happening`, `Story` — what happens while the program waits, told so that nothing else can happen:
  the world changes by itself, or somebody asks the endpoint.
* `Schedule.calls_passDelay`, `Schedule.calls_afterDelay` — the calls that are made while backups
  are made.
-/

set_option autoImplicit false

namespace DumpKeeper

/-! ## Frames -/

/-- The relation `R` holds between a run and itself, and from step to step. -/
class Run.IsFrame (R : Run → Run → Prop) : Prop where
  refl : ∀ r, R r r
  trans : ∀ {r s t}, R r s → R s t → R r t

/-- Between `r` and `s` calls of the kind `K` were made at most, and nothing was counted. -/
structure Run.Idles (K : Call → Bool) (r s : Run) : Prop where
  calls : r.Calls K s
  metrics : s.metrics = r.metrics

instance Run.isFrame_calls (K : Call → Bool) : Run.IsFrame (Run.Calls K) := ⟨.refl, .trans⟩

instance Run.isFrame_idles (K : Call → Bool) : Run.IsFrame (Run.Idles K) :=
  ⟨fun r => ⟨.refl r, rfl⟩, fun h h' => ⟨h.calls.trans h'.calls, h'.metrics.trans h.metrics⟩⟩

/-! ## Acts -/

namespace Act

variable {α β : Type} {R : Run → Run → Prop} {K : Call → Bool}

/-- However the act ends, `R` holds between the run before it and the run after it. -/
def Keeps (R : Run → Run → Prop) (t : Act α) : Prop := ∀ r : Run, R r (t.on r).2

theorem Keeps.attempt {t : Act α} (h : t.Keeps R) : Act.Keeps R (attempt t) := h

theorem Keeps.relaying {t : Act α} {counts : ServiceFault → Bool} {report : ServiceFault → Failure}
    (h : t.Keeps R) : (t.relaying counts report).Keeps R := fun r => by
  rw [on_relaying]
  exact h r

theorem Keeps.get_bind {f : Run → Act β} (h : ∀ r, (f r).Keeps R) : Act.Keeps R (get >>= f) :=
  fun r => h r r

theorem Keeps.ite {c : Prop} [Decidable c] {t u : Act α} (ht : t.Keeps R) (hu : u.Keeps R) :
    Act.Keeps R (if c then t else u) := by
  split
  · exact ht
  · exact hu

section Frames

variable [Run.IsFrame R]

theorem Keeps.pure (a : α) : Act.Keeps R (pure a) := Run.IsFrame.refl

theorem Keeps.fail (f : Failure) : Act.Keeps R (fail f : Act α) := Run.IsFrame.refl

theorem Keeps.bind {t : Act α} {f : α → Act β} (h : t.Keeps R) (hf : ∀ a, (f a).Keeps R) :
    Act.Keeps R (t >>= f) := by
  intro r
  have hr := h r
  rw [on_bind]
  rcases ht : t.on r with ⟨e | a, s⟩
  · rwa [ht] at hr
  · rw [ht] at hr
    exact Run.IsFrame.trans hr (hf a s)

theorem Keeps.forM {f : β → Act Unit} {items : List β} (h : ∀ b ∈ items, (f b).Keeps R) :
    (items.forM f).Keeps R :=
  forM_induction (.pure ()) (fun _ _ ht hu => ht.bind fun _ => hu) h

end Frames

theorem idles_say (level : Level) (source : Source) (message : String) :
    (say level source message).Keeps (Run.Idles K) := fun r => by
  obtain ⟨s, hs, hrs⟩ := say_noted level source message r
  rw [hs]
  exact ⟨.of_eq (by rw [hrs.world]), hrs.metrics⟩

theorem idles_request {c : Call} (h : K c = true) : (request c).Keeps (Run.Idles K) := fun r => by
  rw [on_request]
  exact ⟨.record h rfl, rfl⟩

theorem Keeps.calls {t : Act α} (h : t.Keeps (Run.Idles K)) : t.Keeps (Run.Calls K) :=
  fun r => (h r).calls

/-- A change `g` that makes no call. -/
theorem calls_modify {g : Run → Run} (h : ∀ r, (g r).world.calls = r.world.calls) :
    Act.Keeps (Run.Calls K) (modify g) := fun r => .of_eq (h r)

theorem IsModest.calls {dump : FilePath} {t : Act α} (h : t.IsModest K dump) :
    t.Keeps (Run.Calls K) := fun r => (h.within r).calls

end Act

/-! ## What happens meanwhile -/

/-- What can happen while the program waits: the world changes by itself, or somebody asks the
endpoint. -/
inductive Happening where
  | change (c : Change)
  | ask (method target : String)

/-- What is done when something happens. -/
def Happening.act : Happening → Act Unit
  | .change c => changeWorld (·.change c)
  | .ask method target => do
    let answer ← Endpoint.serve method target
    changeWorld (·.record (.serve target answer))

/-- What happens while the program waits, as a `Schedule.Course` tells it, but in happenings. -/
structure Story where
  beforeDelay : Option Schedule.Stop := none
  duringDelay : Option Schedule.Stop := none
  longestWait : Option Duration := none
  meanwhile : List Happening := []
  ticks : List (List Happening) := []
  ending : Schedule.Stop := .direct

/-- The course that the story `s` tells. -/
def Story.course (s : Story) : Schedule.Course where
  beforeDelay := s.beforeDelay
  duringDelay := s.duringDelay
  longestWait := s.longestWait
  meanwhile := s.meanwhile.forM Happening.act
  ticks := s.ticks.map fun happenings => happenings.forM Happening.act
  ending := s.ending

/-- All that happens in the course of the story `s` is happenings. -/
theorem Story.exists_of_mem_acts {s : Story} {act : Act Unit} (h : act ∈ s.course.acts) :
    ∃ happenings : List Happening, act = happenings.forM Happening.act := by
  rcases List.mem_cons.1 h with rfl | h
  · exact ⟨s.meanwhile, rfl⟩
  · obtain ⟨happenings, -, rfl⟩ := List.mem_map.1 h
    exact ⟨happenings, rfl⟩

theorem World.calls_change (w : World) (c : Change) : (w.change c).calls = w.calls := by
  cases c <;> rfl

namespace Endpoint

variable {K : Call → Bool}

theorem idles_answerTo (method : String) (path : List Char) :
    (answerTo method path).Keeps (Run.Idles K) := by
  have hpage : ∀ page, (pageAnswer page).Keeps (Run.Idles K) := by
    intro page
    cases page with
    | metrics =>
      refine .get_bind fun r => ?_
      rcases r.gatherFault with _ | text
      · exact .pure _
      · exact .bind (Act.idles_say _ _ _) fun _ => .pure _
    | health => exact .get_bind fun r => .pure _
    | missingFile => exact .pure _
  rw [answerTo]
  split
  · exact .ite (.pure _) (.ite (.pure _) (.bind (hpage _) fun _ => .pure _))
  · exact .pure _
  · exact .pure _

theorem idles_serve (method target : String) : (serve method target).Keeps (Run.Idles K) := by
  delta serve
  generalize asked target = where?
  rcases where? with d | ⟨host, path⟩
  · exact .fail _
  · exact .ite (idles_answerTo _ _) (.pure _)

end Endpoint

/-- Nothing that happens makes a call, but that an answer of the endpoint counts for one, which `K`
allows. -/
theorem Happening.calls_act {K : Call → Bool} (hK : ∀ path answer, K (.serve path answer) = true)
    (h : Happening) : h.act.Keeps (Run.Calls K) := by
  cases h with
  | change c => exact Act.calls_modify fun r => r.world.calls_change c
  | ask method target =>
    have hrecord : ∀ answer, (changeWorld (·.record (.serve target answer))).Keeps (Run.Calls K) :=
      fun answer r => .record (hK target answer) rfl
    exact Act.Keeps.bind (Endpoint.idles_serve method target).calls hrecord

theorem Story.calls_acts {K : Call → Bool} (hK : ∀ path answer, K (.serve path answer) = true)
    (s : Story) : ∀ act ∈ s.course.acts, Act.Keeps (Run.Calls K) act := by
  intro act hact
  obtain ⟨happenings, rfl⟩ := Story.exists_of_mem_acts hact
  exact .forM fun h _ => h.calls_act hK

/-! ## The scheduler -/

namespace Schedule

open Act

variable {cycle : Executor → Act (Option String)} {listens : Bool} {c : Course} {K : Call → Bool}

section

variable (hK : ∀ c : Call, c.isSchedules = true → K c = true)

include hK

theorem calls_request {call : Call} (h : call.isSchedules = true) :
    (request call).Keeps (Run.Calls K) := (idles_request (hK call h)).calls

theorem calls_setUp (x : Executor) (interval : Duration) (now : Option Reading) :
    (setUp x interval now).Keeps (Run.Calls K) := by
  refine .get_bind fun r => .ite (.pure ()) ?_
  rcases nextTick interval.wholeSeconds (now.getD r.world.now) with f | first
  · exact .fail _
  refine .bind (calls_modify fun _ => rfl) fun _ => .bind (calls_request hK rfl) fun _ =>
    .bind (calls_modify fun _ => rfl) fun _ => ?_
  rcases backupJob? interval first with _ | job
  · exact .fail _
  · exact .bind (calls_request hK rfl) fun _ => calls_modify fun _ => rfl

theorem calls_start : start.Keeps (Run.Calls K) := by
  refine .get_bind fun r => ?_
  rcases r.timer with _ | t
  · exact .fail _
  · refine .ite (idles_say _ _ _).calls (.bind (calls_request hK rfl) fun _ => ?_)
    exact .bind (calls_modify fun _ => rfl) fun _ => .forM fun j _ => (idles_say _ _ _).calls

theorem calls_stop : stop.Keeps (Run.Calls K) := by
  refine .get_bind fun r => .ite ?_ (calls_modify fun _ => rfl)
  exact .bind (calls_request hK rfl) fun _ => .bind (idles_say _ _ _).calls fun _ =>
    calls_modify fun _ => rfl

omit hK in
theorem calls_runCycleSafely (hcycle : ∀ x, (cycle x).Keeps (Run.Calls K))
    (given : Option Executor) : (runCycleSafely cycle given).Keeps (Run.Calls K) := fun r => by
  rcases hx : given.or r.executor with _ | x
  · rw [runCycleSafely, on_get_bind, hx]
    exact .refl r
  · obtain ⟨s, hon, hnoted⟩ := runCycleSafely_on cycle hx
    rw [hon]
    exact (hcycle x r).trans (.of_eq (by rw [hnoted.world]))

omit hK in
theorem calls_heed (listens : Bool) (s : Stop) : (heed listens s).Keeps (Run.Calls K) := by
  cases s with
  | direct => exact .pure _
  | signal name => exact .ite (.bind (idles_say _ _ _).calls fun _ => .pure _) (.pure _)

omit hK in
theorem calls_heedAny (listens : Bool) (stop? : Option Stop) :
    (heedAny listens stop?).Keeps (Run.Calls K) := by
  rcases stop? with _ | s
  · exact .pure _
  · exact calls_heed listens s

theorem calls_waitDelay (listens : Bool) (delay : Duration)
    (hmeanwhile : c.meanwhile.Keeps (Run.Calls K)) :
    (waitDelay listens c delay).Keeps (Run.Calls K) := by
  refine .bind (calls_heedAny _ _) fun asked => .bind (calls_request hK rfl) fun _ => ?_
  refine .ite (.pure _) ?_
  have hbegun : Act.Keeps (Run.Calls K) (do c.meanwhile; heedAny listens c.duringDelay) :=
    hmeanwhile.bind fun _ => calls_heedAny _ _
  exact .ite (.bind (.fail _) fun _ => hbegun) hbegun

theorem calls_waitTicks (hcycle : ∀ x, (cycle x).Keeps (Run.Calls K))
    (hticks : ∀ before ∈ c.ticks, Act.Keeps (Run.Calls K) before) :
    (waitTicks cycle listens c).Keeps (Run.Calls K) := by
  refine .bind (calls_request hK rfl) fun _ => .bind (.forM fun before hb => ?_) fun _ =>
    .bind (calls_heed listens _) fun _ => .pure _
  refine .bind (hticks before hb) fun _ => ?_
  refine .bind (calls_runCycleSafely hcycle none) fun result r => ?_
  rw [on_changeWorld]
  exact .record (hK (.tick result) rfl) rfl

omit hK in
theorem keeps_thenAlways {α : Type} {R : Run → Run → Prop} [Run.IsFrame R] {t : Act α}
    {last : Act Unit} (ht : t.Keeps R) (hlast : last.Keeps R) : (thenAlways t last).Keeps R := by
  refine .bind ht.attempt fun result => .bind hlast fun _ => ?_
  rcases result with f | a
  · exact .fail f
  · exact .pure a

theorem calls_passDelay (listens : Bool) (delay : Duration)
    (hmeanwhile : c.meanwhile.Keeps (Run.Calls K)) :
    (passDelay listens c delay).Keeps (Run.Calls K) := by
  refine .ite (.bind (idles_say _ _ _).calls fun _ => ?_) (.pure _)
  exact .bind (calls_waitDelay hK listens delay hmeanwhile) fun cut =>
    .ite (.bind (idles_say _ _ _).calls fun _ => .pure _) (.pure _)

/-- **While `afterDelay` makes backups**, calls are made by the scheduler, by cycles, and by what
happens meanwhile; all of them are of the kind `K` if these are. -/
theorem calls_afterDelay (hcycle : ∀ x, (cycle x).Keeps (Run.Calls K))
    (hticks : ∀ before ∈ c.ticks, Act.Keeps (Run.Calls K) before) (x : Executor)
    (interval : Duration) (once : Bool) :
    (afterDelay cycle listens c x interval once).Keeps (Run.Calls K) := by
  refine .ite (calls_runCycleSafely hcycle _) (.bind (calls_setUp hK x interval none) fun _ => ?_)
  refine .bind (calls_start hK) fun _ => .bind ?_ fun _ => .pure _
  exact keeps_thenAlways (calls_waitTicks hK hcycle hticks) (calls_stop hK)

end

end Schedule

end DumpKeeper
