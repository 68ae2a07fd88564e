import DumpKeeper.Proofs.Act

/-!
# Calls in a row

An act talks to others by calls, and which of them fail was planned beforehand.  So what becomes of
an act that makes some calls one after the other is known before it begins: it goes on until a call
fails, and the fault of that call is its failure.

* `World.answers`, `World.afterCalls` — what calls are answered when they are made one after the
  other, and the world after them.
* `World.queue`, `World.planned` — the faults that are planned for the calls of one name.
* `Run.Completes`, `Run.Stops` — between two runs some calls were made and none failed; or they were
  made up to one that failed.
* `Act.Performs t r calls answers` says that `t` makes just these calls in `r`, and fails only with
  the fault of one of them.  `Act.Performs.bind` and its companions put such acts together.
-/

set_option autoImplicit false

namespace DumpKeeper

namespace World

/-! ## Faults that are due -/

theorem due_subset (name : String) (planned : List (String × Option ServiceFault)) :
    (due name planned).2 ⊆ planned := by
  induction planned with
  | nil => exact List.Subset.refl _
  | cons e rest ih =>
    rw [due]
    split
    · exact List.subset_cons_self _ _
    · exact List.cons_subset_cons e ih

/-- A fault that is `due` for `name` was planned. -/
theorem mem_of_due_eq_some {name : String} {planned : List (String × Option ServiceFault)}
    {f : ServiceFault} (h : (due name planned).1 = some f) : (name, some f) ∈ planned := by
  induction planned with
  | nil => cases h
  | cons e rest ih =>
    rw [due] at h
    split at h
    · rename_i hname
      have he : e = (name, some f) := Prod.ext (by simpa using hname) h
      rw [he]
      exact List.mem_cons_self
    · exact List.mem_cons_of_mem e (ih h)

variable {w v : World} {c : Call} {f : ServiceFault}

theorem meet_snd_subset (w : World) (name : String) : (w.meet name).2.faults ⊆ w.faults :=
  due_subset name w.faults

/-- What is met by `name` was planned in the world `w`. -/
theorem mem_faults_of_meet {name : String} (h : (w.meet name).1 = .error f) :
    (name, some f) ∈ w.faults := by
  refine mem_of_due_eq_some ?_
  simp only [meet] at h
  split at h
  · rename_i g hg
    rw [hg, Except.error.inj h]
  · cases h

theorem ask_snd_subset (w : World) (c : Call) : (w.ask c).2.faults ⊆ w.faults :=
  meet_snd_subset (w.record c) c.name

/-- The call `c` fails with a fault that was planned for it. -/
theorem mem_faults_of_ask (h : (w.ask c).1 = .error f) : (c.name, some f) ∈ w.faults :=
  mem_faults_of_meet (w := w.record c) h

/-! ## Answers -/

/-- What the calls are answered when they are made one after the other in the world `w`. -/
def answers (w : World) : List Call → List (Except ServiceFault Unit)
  | [] => []
  | c :: rest => (w.ask c).1 :: (w.ask c).2.answers rest

/-- The world `w` after the calls, whatever they were answered. -/
def afterCalls (w : World) : List Call → World
  | [] => w
  | c :: rest => (w.ask c).2.afterCalls rest

/-- None of `calls` fails when they are made one after the other in the world `w`. -/
def Passes (w : World) (calls : List Call) : Prop := ∀ a ∈ w.answers calls, a = .ok ()

theorem answers_append (w : World) (calls more : List Call) :
    w.answers (calls ++ more) = w.answers calls ++ (w.afterCalls calls).answers more := by
  induction calls generalizing w with
  | nil => rfl
  | cons c rest ih =>
    rw [List.cons_append, answers, ih]
    rfl

theorem afterCalls_append (w : World) (calls more : List Call) :
    w.afterCalls (calls ++ more) = (w.afterCalls calls).afterCalls more := by
  induction calls generalizing w with
  | nil => rfl
  | cons c rest ih => exact ih _

/-- Only the `faults` that are planned count for the answer to `c`. -/
theorem ask_congr (h : w.faults = v.faults) (c : Call) :
    (w.ask c).1 = (v.ask c).1 ∧ (w.ask c).2.faults = (v.ask c).2.faults := by
  simp only [ask, meet, record, h]
  exact ⟨trivial, trivial⟩

theorem answers_congr (h : w.faults = v.faults) (calls : List Call) :
    w.answers calls = v.answers calls := by
  induction calls generalizing w v with
  | nil => rfl
  | cons c rest ih => rw [answers, answers, (ask_congr h c).1, ih (ask_congr h c).2]

theorem faults_afterCalls_congr (h : w.faults = v.faults) (calls : List Call) :
    (w.afterCalls calls).faults = (v.afterCalls calls).faults := by
  induction calls generalizing w v with
  | nil => exact h
  | cons c rest ih => exact ih (ask_congr h c).2

theorem afterCalls_subset (w : World) (calls : List Call) :
    (w.afterCalls calls).faults ⊆ w.faults := by
  induction calls generalizing w with
  | nil => exact List.Subset.refl _
  | cons c rest ih => exact List.Subset.trans (ih _) (ask_snd_subset w c)

theorem passes_nil (w : World) : w.Passes [] := fun _ h => absurd h List.not_mem_nil

theorem passes_append {calls more : List Call} (h : w.Passes calls)
    (h' : (w.afterCalls calls).Passes more) : w.Passes (calls ++ more) := by
  intro a ha
  rw [answers_append] at ha
  exact (List.mem_append.1 ha).elim (h a) (h' a)

theorem Passes.congr {calls : List Call} (h : w.Passes calls) (hf : w.faults = v.faults) :
    v.Passes calls := by
  rwa [Passes, answers_congr hf] at h

end World

/-! ## Faults by name

A call looks only at the faults that are planned for its name, and takes the first of them. -/

namespace World

variable {w : World} {name other : String}

/-- The faults that are planned for a name, in order; `none` lets a call pass. -/
def queue (w : World) (name : String) : List (Option ServiceFault) :=
  (w.faults.filter fun e => e.1 == name).map (·.2)

/-- The fault that is planned for the `i`-th call of a name from now on, counted from zero. -/
def planned (w : World) (name : String) (i : Nat) : Option ServiceFault :=
  (w.queue name)[i]?.join

/-- The first fault of `name` is due, and those behind it are left. -/
theorem due_eq (name : String) (faults : List (String × Option ServiceFault)) :
    (due name faults).1 = ((faults.filter fun e => e.1 == name).map (·.2))[0]?.join ∧
      ((due name faults).2.filter fun e => e.1 == name).map (·.2) =
        ((faults.filter fun e => e.1 == name).map (·.2)).tail := by
  induction faults with
  | nil => exact ⟨rfl, rfl⟩
  | cons e rest ih =>
    rw [due]
    split
    · rename_i he
      simp [he]
    · rename_i he
      have hskip : ∀ l, (e :: l).filter (fun e => e.1 == name) = l.filter fun e => e.1 == name :=
        fun _ => List.filter_cons_of_neg he
      rw [hskip rest]
      exact ⟨ih.1, (congrArg (List.map _) (hskip _)).trans ih.2⟩

theorem filter_due_of_ne (h : other ≠ name) (faults : List (String × Option ServiceFault)) :
    ((due name faults).2.filter fun e => e.1 == other) = faults.filter fun e => e.1 == other := by
  induction faults with
  | nil => rfl
  | cons e rest ih =>
    rw [due]
    split
    · rename_i he
      rw [beq_iff_eq] at he
      rw [List.filter_cons_of_neg (by simpa [he] using h.symm)]
    · rw [List.filter_cons, ih, List.filter_cons]

theorem queue_meet_self (w : World) (name : String) :
    (w.meet name).2.queue name = (w.queue name).tail := (due_eq name w.faults).2

theorem queue_meet_of_ne (w : World) (h : other ≠ name) :
    (w.meet name).2.queue other = w.queue other :=
  congrArg (List.map _) (filter_due_of_ne h w.faults)

theorem planned_of_queue_tail {v : World} (h : v.queue name = (w.queue name).tail) (i : Nat) :
    v.planned name i = w.planned name (i + 1) := by
  rw [planned, planned, h, List.getElem?_tail]

/-- What `name` meets is the first fault that is planned for it. -/
theorem meet_fst_of_planned {f : ServiceFault} (h : w.planned name 0 = some f) :
    (w.meet name).1 = .error f := by
  have hdue : (due name w.faults).1 = some f := (due_eq name w.faults).1.trans h
  simp only [meet, hdue]

theorem meet_fst_of_not_planned (h : w.planned name 0 = none) : (w.meet name).1 = .ok () := by
  have hdue : (due name w.faults).1 = none := (due_eq name w.faults).1.trans h
  simp only [meet, hdue]

theorem planned_of_calm (h : w.faults = []) (name : String) (i : Nat) :
    w.planned name i = none := by
  rw [planned, queue, h]
  rfl

end World

/-! ## Calls between two runs -/

/-- Between `r` and `s` some calls were made, which took no time; the store answers parts as it
did before. -/
structure Run.Makes (r s : Run) (calls : List Call) : Prop where
  /-- They were noted down. -/
  noted : s.world.calls = r.world.calls ++ calls
  /-- They have used up the faults that were due. -/
  faults : s.world.faults = (r.world.afterCalls calls).faults
  /-- The clock has not moved. -/
  now : s.world.now = r.world.now
  /-- Nor has the way in which the store marks parts. -/
  partMark : s.world.partMark = r.world.partMark

/-- Between `r` and `s` some calls were made, and none of them has failed. -/
def Run.Completes (r s : Run) (calls : List Call) : Prop :=
  r.Makes s calls ∧ r.world.Passes calls

/-- Of some calls that were to be made between `r` and `s`, one has failed with `f`.  Those before
it have not failed, and those behind it were not made. -/
def Run.Stops (r s : Run) (calls : List Call) (f : ServiceFault) : Prop :=
  ∃ done failed behind, calls = done ++ failed :: behind ∧ r.Makes s (done ++ [failed]) ∧
    r.world.Passes done ∧ ((r.world.afterCalls done).ask failed).1 = .error f

namespace Run

variable {r s t : Run} {calls more : List Call} {f : ServiceFault}

theorem Makes.trans (h : r.Makes s calls) (h' : s.Makes t more) : r.Makes t (calls ++ more) := by
  refine ⟨?_, ?_, h'.now.trans h.now, h'.partMark.trans h.partMark⟩
  · rw [h'.noted, h.noted, List.append_assoc]
  · rw [h'.faults, World.afterCalls_append]
    exact World.faults_afterCalls_congr h.faults more

theorem Makes.subset (h : r.Makes s calls) : s.world.faults ⊆ r.world.faults := by
  rw [h.faults]
  exact World.afterCalls_subset _ _

theorem Completes.trans (h : r.Completes s calls) (h' : s.Completes t more) :
    r.Completes t (calls ++ more) :=
  ⟨h.1.trans h'.1, World.passes_append h.2 (h'.2.congr h.1.faults)⟩

/-- `s` completes no call where nothing has changed that calls see. -/
theorem completes_nil (hc : s.world.calls = r.world.calls) (hf : s.world.faults = r.world.faults)
    (hn : s.world.now = r.world.now) (hm : s.world.partMark = r.world.partMark) :
    r.Completes s [] :=
  ⟨⟨hc.trans (List.append_nil _).symm, hf, hn, hm⟩, World.passes_nil _⟩

theorem Completes.stops (h : r.Completes s calls) (h' : s.Stops t more f) :
    r.Stops t (calls ++ more) f := by
  obtain ⟨done, failed, behind, rfl, hmakes, hpass, hfail⟩ := h'
  refine ⟨calls ++ done, failed, behind, (List.append_assoc _ _ _).symm, ?_, ?_, ?_⟩
  · rw [List.append_assoc]
    exact h.1.trans hmakes
  · exact World.passes_append h.2 (hpass.congr h.1.faults)
  · rw [World.afterCalls_append, ← hfail]
    exact ((World.ask_congr (World.faults_afterCalls_congr h.1.faults done) failed).1).symm

theorem Stops.append (h : r.Stops s calls f) (more : List Call) : r.Stops s (calls ++ more) f := by
  obtain ⟨done, failed, behind, rfl, hrest⟩ := h
  exact ⟨done, failed, behind ++ more, by rw [List.append_assoc, List.cons_append], hrest⟩

/-- The fault `f` was planned for one of `calls`. -/
theorem Stops.mem_faults (h : r.Stops s calls f) :
    ∃ c ∈ calls, (c.name, some f) ∈ r.world.faults := by
  obtain ⟨done, failed, behind, rfl, -, -, hfail⟩ := h
  exact ⟨failed, List.mem_append_right _ List.mem_cons_self,
    World.afterCalls_subset _ _ (World.mem_faults_of_ask hfail)⟩

theorem Stops.makes (h : r.Stops s calls f) : ∃ made, r.Makes s made := by
  obtain ⟨done, failed, -, -, hmakes, -⟩ := h
  exact ⟨_, hmakes⟩

/-- The call `c` was made, although it failed. -/
theorem Stops.makes_singleton {c : Call} (h : r.Stops s [c] f) : r.Makes s [c] := by
  obtain ⟨done, failed, behind, heq, hmakes, -⟩ := h
  obtain ⟨rfl, hrest⟩ | ⟨_, -, hrest⟩ := List.append_eq_cons_iff.1 heq.symm
  · obtain ⟨rfl, -⟩ := List.cons.inj hrest
    exact hmakes
  · exact absurd hrest.symm (by simp)

/-- Nothing but the world of `t` counts for the calls that were made. -/
theorem Makes.of_world (h : r.Makes s calls) (hw : t.world = s.world) : r.Makes t calls :=
  ⟨by rw [hw, h.noted], by rw [hw, h.faults], by rw [hw, h.now], by rw [hw, h.partMark]⟩

end Run

/-! ## Acts that make calls -/

namespace Act

variable {α β : Type} {r s : Run} {calls more : List Call}

/-- In `r`, the act makes just these calls, one after the other.  If none of them fails it answers,
and if one fails the fault is the failure of the act. -/
def Performs (t : Act α) (r : Run) (calls : List Call) (answers : α → Prop) : Prop :=
  t.Ends r (fun a s => r.Completes s calls ∧ answers a) fun f s =>
    ∃ g, f = .service g ∧ r.Stops s calls g

theorem Performs.pure {a : α} {answers : α → Prop} (h : answers a) :
    Performs (pure a) r [] answers := Ends.pure ⟨Run.completes_nil rfl rfl rfl rfl, h⟩

/-- Acts in a row, `t >>= f`, make their `calls` and `more` in a row. -/
theorem Performs.bind {t : Act α} {f : α → Act β} {answers : α → Prop} {last : β → Prop}
    (h : t.Performs r calls answers)
    (hf : ∀ a s, r.Completes s calls → answers a → (f a).Performs s more last) :
    Performs (t >>= f) r (calls ++ more) last := by
  refine Ends.bind_of h ?_ ?_
  · rintro _ s ⟨g, rfl, hs⟩
    exact ⟨g, rfl, hs.append more⟩
  · rintro a s ⟨hs, ha⟩
    refine (hf a s hs ha).mono (fun b u hu => ⟨hs.trans hu.1, hu.2⟩) ?_
    rintro _ u ⟨g, rfl, hu⟩
    exact ⟨g, rfl, hs.stops hu⟩

/-- An act `t` that makes no call, and then another one. -/
theorem Performs.nil_bind {t : Act α} {f : α → Act β} {answers : α → Prop} {last : β → Prop}
    (h : t.Performs r [] answers)
    (hf : ∀ a s, r.Completes s [] → answers a → (f a).Performs s more last) :
    Performs (t >>= f) r more last := h.bind hf

/-- An act `t`, and then another one that makes no call. -/
theorem Performs.bind_nil {t : Act α} {f : α → Act β} {answers : α → Prop} {last : β → Prop}
    (h : t.Performs r calls answers)
    (hf : ∀ a s, r.Completes s calls → answers a → (f a).Performs s [] last) :
    Performs (t >>= f) r calls last := by
  have hrow := h.bind hf
  rwa [List.append_nil] at hrow

theorem performs_request (c : Call) (r : Run) : (request c).Performs r [c] fun _ => True := by
  have hmakes : r.Makes { r with world := (r.world.ask c).2 } [c] := ⟨rfl, rfl, rfl, rfl⟩
  refine ⟨fun {a s} ht => ?_, fun {f s} ht => ?_⟩
  · rw [on_request, Prod.mk.injEq] at ht
    obtain ⟨hok, rfl⟩ := ht
    refine ⟨⟨hmakes, fun b hb => ?_⟩, trivial⟩
    obtain rfl := List.mem_singleton.1 hb
    rcases h : (r.world.ask c).1 with g | u
    · rw [h] at hok
      cases hok
    · rfl
  · rw [on_request, Prod.mk.injEq] at ht
    obtain ⟨herr, rfl⟩ := ht
    rcases h : (r.world.ask c).1 with g | u
    · rw [h] at herr
      exact ⟨g, (Except.error.inj herr).symm, [], c, [], rfl, hmakes, World.passes_nil _, h⟩
    · rw [h] at herr
      cases herr

/-- The call `c` meets the first fault that is planned for its name, or none. -/
theorem request_ends_planned (c : Call) (r : Run) :
    (request c).Ends r
      (fun _ s => r.world.planned c.name 0 = none ∧ s = { r with world := (r.world.ask c).2 })
      fun f s => (∃ g, r.world.planned c.name 0 = some g ∧ f = .service g) ∧
        s = { r with world := (r.world.ask c).2 } := by
  have hon := on_request c r
  rcases hp : r.world.planned c.name 0 with _ | g
  · have hok : (r.world.ask c).1 = .ok () := World.meet_fst_of_not_planned hp
    rw [hok] at hon
    exact ends_of_ok hon ⟨rfl, rfl⟩
  · have herr : (r.world.ask c).1 = .error g := World.meet_fst_of_planned hp
    rw [herr] at hon
    exact ends_of_error hon ⟨⟨g, rfl, rfl⟩, rfl⟩

/-- A change `g` of the world that no call can see. -/
theorem performs_changeWorld {g : World → World} (hc : (g r.world).calls = r.world.calls)
    (hf : (g r.world).faults = r.world.faults) (hn : (g r.world).now = r.world.now)
    (hm : (g r.world).partMark = r.world.partMark) :
    (changeWorld g).Performs r [] fun _ => True :=
  ends_of_ok (on_changeWorld g r) ⟨Run.completes_nil hc hf hn hm, trivial⟩

/-- `currentTime` looks at the clock, which shows a point in time, and makes no call. -/
theorem performs_currentTime {now : DateTime} (h : DateTime.ofReading r.world.now = .ok now) :
    currentTime.Performs r [] fun t => t = now := by
  refine ends_of_ok (a := now) (s := r) ?_ ⟨Run.completes_nil rfl rfl rfl rfl, rfl⟩
  rw [on_currentTime, h]
  rfl

end Act

end DumpKeeper
