import DumpKeeper.Run

/-!
# How acts end

An act ends with an answer or with a failure, and either way it leaves a run behind.  What is proved
about acts in this library is said with the notions of this file.

* `Act.on` is what an act does in a run, and `Act.on_bind` and its companions evaluate it.
* `Act.Ends t r done failed` says how `t` ends in `r`: an answer comes with `done`, a failure with
  `failed`.  Acts that cannot fail are those that end with `failed` impossible.
* `World.scene` is what a world shows apart from the calls that were made in it, and
  `Run.Leaves r s os` says that between `r` and `s` the scene has changed in its objects only, which
  are `os` now.  It also says that no fault was planned on the way.
* `Act.IsQuiet t` says that `t` changes nothing about the scene, however it ends.
* `Act.IsAside t` says that `t` does not touch the world at all and cannot fail: it writes to the
  journal, or counts something.  What comes after it finds the same world.
* `Act.IsWorldly t` says that `t` looks at nothing but the world, so that it may be put in front of
  acts done aside, or behind them.
-/

set_option autoImplicit false

namespace DumpKeeper

/-! ## Evaluation -/

/-- `t >>= f`, two computations in a row that may fail and have a state. -/
theorem run_bind_eq_match {ε σ α β : Type} (t : ExceptT ε (StateM σ) α)
    (f : α → ExceptT ε (StateM σ) β) (r : σ) :
    (t >>= f).run.run r = match t.run.run r with
      | (.ok a, s) => (f a).run.run s
      | (.error e, s) => (.error e, s) := by
  have h : (t >>= f).run.run r =
      (ExceptT.bindCont f (t.run.run r).1 : StateM σ _) (t.run.run r).2 := rfl
  rw [h]
  rcases t.run.run r with ⟨_ | _, s⟩ <;> rfl

/-- What the act `t` does in the run `r`: its answer or its failure, and the run that it leaves. -/
def Act.on {α : Type} (t : Act α) (r : Run) : Except Failure α × Run := t.run r

namespace Act

variable {α β : Type}

/-- `t` and `u` are the same act if they do the same in every run. -/
theorem ext {t u : Act α} (h : ∀ r, t.on r = u.on r) : t = u := funext h

@[simp] theorem on_pure (a : α) (r : Run) : Act.on (pure a) r = (.ok a, r) := rfl

@[simp] theorem on_fail (f : Failure) (r : Run) : Act.on (fail f : Act α) r = (.error f, r) := rfl

@[simp] theorem on_get (r : Run) : Act.on get r = (.ok r, r) := rfl

@[simp] theorem on_modify (g : Run → Run) (r : Run) : Act.on (modify g) r = (.ok (), g r) := rfl

@[simp] theorem on_liftM (e : Except Failure α) (r : Run) : Act.on (liftM e) r = (e, r) := by
  cases e <;> rfl

/-- `P` holds of `f` done for every item, if it holds of doing nothing and of one act behind the
other. -/
theorem forM_induction {P : Act Unit → Prop} (hpure : P (pure ()))
    (hbind : ∀ t u : Act Unit, P t → P u → P (t >>= fun _ => u)) {f : β → Act Unit}
    {items : List β} (h : ∀ b ∈ items, P (f b)) : P (items.forM f) := by
  induction items with
  | nil => exact hpure
  | cons b rest ih =>
    obtain ⟨hb, hrest⟩ := List.forall_mem_cons.1 h
    exact hbind _ _ hb (ih hrest)

/-- `attempt t` does what `t` does, and cannot fail. -/
@[simp] theorem on_attempt (t : Act α) (r : Run) :
    Act.on (attempt t) r = (.ok (t.on r).1, (t.on r).2) := rfl

/-- In `t >>= f` the second act is done in the run that `t` leaves, and not at all if `t` fails. -/
theorem on_bind (t : Act α) (f : α → Act β) (r : Run) :
    Act.on (t >>= f) r = match t.on r with
      | (.ok a, s) => (f a).on s
      | (.error e, s) => (.error e, s) := by
  have h := run_bind_eq_match t f r
  rcases ht : t.on r with ⟨e | a, s⟩
  · exact h.trans (by rw [show t.run.run r = (.error e, s) from ht])
  · exact h.trans (by rw [show t.run.run r = (.ok a, s) from ht]; rfl)

theorem on_bind_ok {t : Act α} {f : α → Act β} {r s : Run} {a : α} (h : t.on r = (.ok a, s)) :
    Act.on (t >>= f) r = (f a).on s := by
  rw [on_bind, h]

theorem on_bind_error {t : Act α} {f : α → Act β} {r s : Run} {e : Failure}
    (h : t.on r = (.error e, s)) : Act.on (t >>= f) r = (.error e, s) := by
  rw [on_bind, h]

/-- `get >>= f` looks at the run it is done in. -/
theorem on_get_bind (f : Run → Act β) (r : Run) : Act.on (get >>= f) r = (f r).on r := rfl

@[simp] theorem on_count (c : Counter) (r : Run) :
    (count c).on r = (.ok (), { r with metrics := r.metrics.tick c }) := rfl

@[simp] theorem on_observe (d : Distribution) (a : Amount) (r : Run) :
    (observe d a).on r = (.ok (), { r with metrics := r.metrics.observe d a }) := rfl

@[simp] theorem on_changeWorld (f : World → World) (r : Run) :
    (changeWorld f).on r = (.ok (), { r with world := f r.world }) := rfl

/-- The call `c` is noted down, and fails if a fault is due. -/
theorem on_request (c : Call) (r : Run) :
    (request c).on r =
      ((r.world.ask c).1.mapError Failure.service, { r with world := (r.world.ask c).2 }) := by
  rw [request, on_get_bind]
  rcases r.world.ask c with ⟨_ | _, w⟩ <;> rfl

/-- `currentTime` tells a point in time, or the fault that keeps the reading of the clock from being
one. -/
theorem on_currentTime (r : Run) :
    currentTime.on r = ((DateTime.ofReading r.world.now).mapError Failure.time, r) := by
  rw [currentTime, on_get_bind]
  rcases DateTime.ofReading r.world.now with _ | _ <;> rfl

/-! ### Faults that are reported -/

/-- A failure as it is passed on: a fault of a service that `counts` is put into the words of
`report`, and any other failure stays as it is. -/
def relayed (counts : ServiceFault → Bool) (report : ServiceFault → Failure) : Failure → Failure
  | .service f => if counts f then report f else .service f
  | f => f

/-- The act `t`, whose failures are passed on as `relayed counts report` says. -/
def relaying (counts : ServiceFault → Bool) (report : ServiceFault → Failure) (t : Act α) :
    Act α := do
  match ← attempt t with
  | .ok a => return a
  | .error (.service f) => if counts f then fail (report f) else fail (.service f)
  | .error f => fail f

/-- What follows, `k`, is done with the answer. -/
theorem relaying_bind (counts : ServiceFault → Bool) (report : ServiceFault → Failure) (t : Act α)
    (k : α → Act β) :
    relaying counts report t >>= k = (do
      match ← attempt t with
      | .ok a => k a
      | .error (.service f) => if counts f then fail (report f) else fail (.service f)
      | .error f => fail f) := by
  rw [relaying, bind_assoc]
  refine bind_congr fun answer => ?_
  rcases answer with f | a
  · cases f with
    | service f =>
      dsimp only
      split <;> rfl
    | _ => rfl
  · rfl

/-- `relaying` changes nothing but the failure. -/
theorem on_relaying (counts : ServiceFault → Bool) (report : ServiceFault → Failure) (t : Act α)
    (r : Run) :
    (relaying counts report t).on r =
      ((t.on r).1.mapError (relayed counts report), (t.on r).2) := by
  rw [relaying, on_bind, on_attempt]
  rcases t.on r with ⟨f | a, s⟩
  · cases f with
    | service f =>
      show Act.on (if counts f = true then _ else _) s =
        (.error (if counts f = true then _ else _), s)
      split <;> rfl
    | _ => rfl
  · rfl

/-! ## How an act ends -/

/-- `t` ends in `r` with an answer that comes with `done`, or with a failure that comes with
`failed`. -/
structure Ends (t : Act α) (r : Run) (done : α → Run → Prop) (failed : Failure → Run → Prop) :
    Prop where
  /-- The answer, and the run that comes with it. -/
  of_ok : ∀ {a s}, t.on r = (.ok a, s) → done a s
  /-- The failure, and the run that comes with it. -/
  of_error : ∀ {f s}, t.on r = (.error f, s) → failed f s

variable {t : Act α} {r s : Run} {done done' : α → Run → Prop}
  {failed failed' : Failure → Run → Prop}

theorem ends_of_ok {a : α} (ht : t.on r = (.ok a, s)) (h : done a s) : t.Ends r done failed := by
  refine ⟨fun hs => ?_, fun hs => ?_⟩
  · cases ht.symm.trans hs
    exact h
  · cases ht.symm.trans hs

theorem ends_of_error {f : Failure} (ht : t.on r = (.error f, s)) (h : failed f s) :
    t.Ends r done failed := by
  refine ⟨fun hs => ?_, fun hs => ?_⟩
  · cases ht.symm.trans hs
  · cases ht.symm.trans hs
    exact h

theorem Ends.pure {a : α} (h : done a r) : Act.Ends (pure a) r done failed := ends_of_ok rfl h

theorem Ends.fail {f : Failure} (h : failed f r) : Act.Ends (fail f : Act α) r done failed :=
  ends_of_error rfl h

theorem Ends.mono (h : t.Ends r done failed) (hd : ∀ a s, done a s → done' a s)
    (hf : ∀ f s, failed f s → failed' f s) : t.Ends r done' failed' :=
  ⟨fun ht => hd _ _ (h.of_ok ht), fun ht => hf _ _ (h.of_error ht)⟩

/-- What is known of an end of `t` in two ways is known of it together. -/
theorem Ends.and (h : t.Ends r done failed) (h' : t.Ends r done' failed') :
    t.Ends r (fun a s => done a s ∧ done' a s) fun f s => failed f s ∧ failed' f s :=
  ⟨fun ht => ⟨h.of_ok ht, h'.of_ok ht⟩, fun ht => ⟨h.of_error ht, h'.of_error ht⟩⟩

/-- **Acts in a row.**  If `t` ends with `done` or `failed`, and `f a` ends with `last` or `failed`
wherever `done a` may hold, then `t >>= f` ends with `last` or `failed`. -/
theorem Ends.bind {f : α → Act β} {last : β → Run → Prop} (h : t.Ends r done failed)
    (hf : ∀ a s, done a s → (f a).Ends s last failed) : Act.Ends (t >>= f) r last failed := by
  rcases ht : t.on r with ⟨e | a, s⟩
  · exact ends_of_error (on_bind_error ht) (h.of_error ht)
  · refine ⟨fun hs => ?_, fun hs => ?_⟩
    · exact (hf a s (h.of_ok ht)).of_ok ((on_bind_ok ht).symm.trans hs)
    · exact (hf a s (h.of_ok ht)).of_error ((on_bind_ok ht).symm.trans hs)

/-- Acts in a row, where a failure of `t` is one of the whole for a reason of its own. -/
theorem Ends.bind_of {f : α → Act β} {last : β → Run → Prop} (h : t.Ends r done failed)
    (he : ∀ e s, failed e s → failed' e s) (hf : ∀ a s, done a s → (f a).Ends s last failed') :
    Act.Ends (t >>= f) r last failed' :=
  (h.mono (fun _ _ hd => hd) he).bind hf

/-- An act `t` for which it is known what it does in `r`, and then another one. -/
theorem Ends.bind_ok {f : α → Act β} {a : α} {done : β → Run → Prop} (h : t.on r = (.ok a, s))
    (hf : (f a).Ends s done failed) : Act.Ends (t >>= f) r done failed := by
  have hfirst : t.Ends r (fun b u => b = a ∧ u = s) failed := ends_of_ok h ⟨rfl, rfl⟩
  refine hfirst.bind fun b u hbu => ?_
  rwa [hbu.1, hbu.2]

/-- `get >>= f` looks at the run that it is done in. -/
theorem Ends.get_bind {f : Run → Act β} {done : β → Run → Prop} (h : (f r).Ends r done failed) :
    Act.Ends (get >>= f) r done failed := Ends.bind_ok (on_get r) h

/-- `attempt t` goes on in both ends of `t`. -/
theorem Ends.attempt {f : Except Failure α → Act β} {last : β → Run → Prop}
    {failed' : Failure → Run → Prop} (h : t.Ends r done failed)
    (hok : ∀ a s, done a s → (f (.ok a)).Ends s last failed')
    (herr : ∀ e s, failed e s → (f (.error e)).Ends s last failed') :
    Act.Ends (attempt t >>= f) r last failed' := by
  rcases ht : t.on r with ⟨e | a, s⟩
  · exact Ends.bind_ok (by rw [on_attempt, ht]) (herr e s (h.of_error ht))
  · exact Ends.bind_ok (by rw [on_attempt, ht]) (hok a s (h.of_ok ht))

theorem Ends.relaying {counts : ServiceFault → Bool} {report : ServiceFault → Failure}
    (h : t.Ends r done failed)
    (hf : ∀ f s, failed f s → failed' (relayed counts report f) s) :
    (relaying counts report t).Ends r done failed' := by
  have hon := on_relaying counts report t r
  rcases ht : t.on r with ⟨f | a, s⟩
  · rw [ht] at hon
    exact ends_of_error hon (hf f s (h.of_error ht))
  · rw [ht] at hon
    exact ends_of_ok hon (h.of_ok ht)

theorem liftM_ends (e : Except Failure α) (r : Run) :
    Act.Ends (liftM e) r (fun a s => s = r ∧ e = .ok a) fun f s => s = r ∧ e = .error f := by
  have hon := on_liftM e r
  rcases e with f | a
  · exact ends_of_error hon ⟨rfl, rfl⟩
  · exact ends_of_ok hon ⟨rfl, rfl⟩

theorem currentTime_ends (r : Run) :
    currentTime.Ends r (fun now s => s = r ∧ DateTime.ofReading r.world.now = .ok now)
      fun f s => s = r ∧ ∃ t, DateTime.ofReading r.world.now = .error t ∧ f = .time t := by
  have hon := on_currentTime r
  rcases h : DateTime.ofReading r.world.now with t | now
  · rw [h] at hon
    exact ends_of_error hon ⟨rfl, t, rfl, rfl⟩
  · rw [h] at hon
    exact ends_of_ok hon ⟨rfl, rfl⟩

end Act

/-! ## What outlasts calls -/

/-- The world `w` without the traces of calls: no `faults` planned, no `calls` made, no `uploads`
begun and no `parts` of them. -/
def World.scene (w : World) : World :=
  { w with parts := [], uploads := 0, faults := [], calls := [] }

/-- **Between `r` and `s` nothing has changed but the objects, which are `os` now**, and whatever
calls leave behind.  Where no fault was planned, none is. -/
structure Run.Leaves (r s : Run) (os : Objects) : Prop where
  /-- The scene is the same but for its objects. -/
  scene : s.world.scene = { r.world.scene with objects := os }
  /-- Faults are used up and never made. -/
  calm : r.world.faults = [] → s.world.faults = []

/-- Between `r` and `s` nothing has changed about the scene. -/
abbrev Run.Quiet (r s : Run) : Prop := r.Leaves s r.world.objects

namespace Run

variable {r s t : Run} {os os' : Objects}

theorem Leaves.objects (h : r.Leaves s os) : s.world.objects = os :=
  congrArg World.objects h.scene

theorem Leaves.partMark (h : r.Leaves s os) : s.world.partMark = r.world.partMark :=
  (congrArg World.partMark h.scene :)

theorem Leaves.now (h : r.Leaves s os) : s.world.now = r.world.now := (congrArg World.now h.scene :)

theorem Leaves.files (h : r.Leaves s os) : s.world.files = r.world.files :=
  (congrArg World.files h.scene :)

theorem Leaves.limits (h : r.Leaves s os) : s.world.limits = r.world.limits :=
  (congrArg World.limits h.scene :)

theorem Leaves.info (h : r.Leaves s os) : s.world.info = r.world.info :=
  (congrArg World.info h.scene :)

/-- The objects `os` that are left are listed in the same order as before. -/
theorem Leaves.listing (h : r.Leaves s os) (beginning : String) :
    s.world.listing beginning = r.world.order.arranged (os.below beginning) := by
  have horder : s.world.order = r.world.order := (congrArg World.order h.scene :)
  rw [World.listing, horder, h.objects]

theorem Quiet.listing (h : r.Quiet s) (beginning : String) :
    s.world.listing beginning = r.world.listing beginning := Leaves.listing h beginning

theorem Leaves.trans (h : r.Leaves s os) (h' : s.Leaves t os') : r.Leaves t os' :=
  ⟨by rw [h'.scene, h.scene], fun hr => h'.calm (h.calm hr)⟩

theorem Quiet.refl (r : Run) : r.Quiet r := ⟨rfl, id⟩

theorem Quiet.trans (h : r.Quiet s) (h' : s.Quiet t) : r.Quiet t := by
  rw [Quiet, h.objects] at h'
  exact Leaves.trans h h'

/-- `Quiet` before or after a change of the objects makes no difference. -/
theorem Quiet.leaves (h : r.Quiet s) (h' : s.Leaves t os) : r.Leaves t os := Leaves.trans h h'

theorem Leaves.quiet (h : r.Leaves s os) (h' : s.Quiet t) : r.Leaves t os := by
  rw [Quiet, h.objects] at h'
  exact h.trans h'

/-- Nothing but the world of a run counts for `Quiet`. -/
theorem Quiet.of_world (h : s.world = r.world) : r.Quiet s := ⟨by rw [h]; rfl, by rw [h]; exact id⟩

end Run

/-! ## Quiet acts -/

namespace Act

variable {α β : Type}

/-- Whether `t` fails or not, it changes nothing about the `World.scene` of a run. -/
def IsQuiet (t : Act α) : Prop := ∀ r : Run, r.Quiet (t.on r).2

theorem IsQuiet.on {t : Act α} (h : t.IsQuiet) {r s : Run} {a : Except Failure α}
    (ht : t.on r = (a, s)) : r.Quiet s := by
  have hq := h r
  rwa [ht] at hq

theorem IsQuiet.ends {t : Act α} (h : t.IsQuiet) (r : Run) :
    t.Ends r (fun _ => r.Quiet) fun _ => r.Quiet :=
  ⟨h.on, h.on⟩

theorem IsQuiet.pure (a : α) : Act.IsQuiet (pure a) := Run.Quiet.refl

theorem IsQuiet.fail (f : Failure) : Act.IsQuiet (fail f : Act α) := Run.Quiet.refl

theorem IsQuiet.attempt {t : Act α} (h : t.IsQuiet) : Act.IsQuiet (attempt t) := h

/-- Quiet acts in a row, `t >>= f`, are quiet. -/
theorem IsQuiet.bind {t : Act α} {f : α → Act β} (h : t.IsQuiet) (hf : ∀ a, (f a).IsQuiet) :
    Act.IsQuiet (t >>= f) := by
  intro r
  rw [on_bind]
  rcases ht : t.on r with ⟨e | a, s⟩
  · exact h.on ht
  · exact (h.on ht).trans (hf a s)

theorem IsQuiet.ite {c : Prop} [Decidable c] {t u : Act α} (ht : t.IsQuiet) (hu : u.IsQuiet) :
    Act.IsQuiet (if c then t else u) := by
  split
  · exact ht
  · exact hu

end Act

/-! ## Acts done aside -/

namespace Act

variable {α β : Type} {r s : Run}

/-- `t` cannot fail, and it leaves the world as it is. -/
def IsAside (t : Act α) : Prop :=
  ∀ r : Run, t.Ends r (fun _ s => s.world = r.world) fun _ _ => False

theorem IsAside.pure (a : α) : Act.IsAside (pure a) := fun _ => Ends.pure rfl

theorem IsAside.modify {g : Run → Run} (h : ∀ r, (g r).world = r.world) :
    Act.IsAside (modify g) := fun r => ends_of_ok (on_modify g r) (h r)

/-- `t >>= f` is done aside if both are; `f` may look at the run that it is done in. -/
theorem IsAside.bind {t : Act α} {f : α → Act β} (h : t.IsAside) (hf : ∀ a, (f a).IsAside) :
    Act.IsAside (t >>= f) := fun r =>
  (h r).bind fun a s hs => (hf a s).mono (fun _ _ ht => ht.trans hs) fun _ _ ht => ht

theorem IsAside.get : Act.IsAside get := fun r => ends_of_ok (on_get r) rfl

theorem isAside_say (level : Level) (source : Source) (message : String) :
    (say level source message).IsAside := by
  refine IsAside.modify fun r => ?_
  split <;> rfl

theorem isAside_count (c : Counter) : (count c).IsAside := IsAside.modify fun _ => rfl

theorem isAside_observe (d : Distribution) (a : Amount) : (observe d a).IsAside :=
  IsAside.modify fun _ => rfl

/-- What is done aside is quiet: `IsAside` is the stronger of the two. -/
theorem IsAside.isQuiet {t : Act α} (h : t.IsAside) : t.IsQuiet := by
  intro r
  rcases ht : t.on r with ⟨f | a, s⟩
  · exact ((h r).of_error ht).elim
  · exact Run.Quiet.of_world ((h r).of_ok ht)

/-- The act `t`, done aside, does not change how the act behind it ends, as far as that looks at the
world only. -/
theorem IsAside.ends_bind {t : Act α} {f : α → Act β} {done : β → Run → Prop}
    {failed : Failure → Run → Prop} (h : t.IsAside)
    (hf : ∀ a s, s.world = r.world → (f a).Ends s done failed) : Act.Ends (t >>= f) r done failed :=
  (h r).mono (fun _ _ hd => hd) (fun _ _ hd => hd.elim) |>.bind hf

/-! ## Acts that look at the world only -/

/-- What `t` answers, and the world that it leaves, depend on nothing of the run but its world. -/
def IsWorldly (t : Act α) : Prop :=
  ∀ r s : Run, r.world = s.world → (t.on r).1 = (t.on s).1 ∧ (t.on r).2.world = (t.on s).2.world

theorem IsWorldly.pure (a : α) : Act.IsWorldly (pure a) := fun _ _ h => ⟨rfl, h⟩

theorem IsWorldly.liftM (e : Except Failure α) : Act.IsWorldly (liftM e) := fun r s h => by
  rw [on_liftM, on_liftM]
  exact ⟨rfl, h⟩

theorem IsWorldly.bind {t : Act α} {f : α → Act β} (h : t.IsWorldly) (hf : ∀ a, (f a).IsWorldly) :
    Act.IsWorldly (t >>= f) := by
  intro r s hw
  obtain ⟨ha, hl⟩ := h r s hw
  rw [on_bind, on_bind]
  rcases ht : t.on r with ⟨a, r'⟩
  rcases hu : t.on s with ⟨b, s'⟩
  rw [ht, hu] at ha hl
  obtain rfl : a = b := ha
  rcases a with e | a
  · exact ⟨rfl, hl⟩
  · exact hf a r' s' hl

/-- `get >>= f` is worldly if `f` looks at nothing but the world of the run, as `g` does. -/
theorem IsWorldly.get_bind {f : Run → Act β} (g : World → Act β) (h : ∀ r, f r = g r.world)
    (hg : ∀ w, (g w).IsWorldly) : Act.IsWorldly (get >>= f) := by
  intro r s hw
  rw [on_get_bind, on_get_bind, h, h, hw]
  exact hg s.world r s hw

theorem isWorldly_changeWorld (f : World → World) : (changeWorld f).IsWorldly :=
  fun _ _ h => ⟨rfl, congrArg f h⟩

theorem isWorldly_request (c : Call) : (request c).IsWorldly := fun r s h => by
  rw [on_request, on_request, h]
  exact ⟨rfl, rfl⟩

end Act

/-! ## Calls -/

theorem World.meet_of_calm {w : World} (h : w.faults = []) (name : String) :
    w.meet name = (.ok (), w) := by
  obtain ⟨⟩ := w
  cases h
  rfl

namespace Act

/-- **A call changes nothing about the scene.**  `request c` fails with a fault of a service only,
and only where `faults` are planned. -/
theorem request_ends (c : Call) (r : Run) :
    (request c).Ends r
      (fun _ s => r.Quiet s ∧ s.world.parts = r.world.parts ∧ s.world.uploads = r.world.uploads)
      fun f s => r.Quiet s ∧ r.world.faults ≠ [] ∧ ∃ g, f = .service g := by
  have hq : r.Quiet { r with world := (r.world.ask c).2 } := by
    refine ⟨rfl, fun h => ?_⟩
    rw [World.ask_of_no_faults _ _ h]
    exact h
  refine ⟨fun ht => ?_, fun ht => ?_⟩
  · rw [on_request, Prod.mk.injEq] at ht
    obtain ⟨-, rfl⟩ := ht
    exact ⟨hq, rfl, rfl⟩
  · rw [on_request, Prod.mk.injEq] at ht
    obtain ⟨hf, rfl⟩ := ht
    refine ⟨hq, fun h => ?_, ?_⟩
    · rw [World.ask_of_no_faults _ _ h] at hf
      cases hf
    · rcases ha : (r.world.ask c).1 with g | u
      · rw [ha] at hf
        exact ⟨g, (Except.error.inj hf).symm⟩
      · rw [ha] at hf
        cases hf

theorem isQuiet_request (c : Call) : (request c).IsQuiet := fun r => by
  rcases h : (request c).on r with ⟨f | u, s⟩
  · exact ((request_ends c r).of_error h).1
  · exact ((request_ends c r).of_ok h).1

end Act

end DumpKeeper
