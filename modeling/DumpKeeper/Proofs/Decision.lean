import DumpKeeper.Proofs.Modest

/-!
# Deciding by the role, time and again

Before every cycle it is decided whether the node is backed up, and where its role matters it is
asked for it.  The client that this takes is made once and kept, the role is not: it is asked for
anew every time, for it may have changed.  What was answered earlier, and what has failed earlier,
has no effect on a decision.

* `World.fault?`, `Run.heard` — the fault that is due for a call, and the entries of a journal that
  are written at its level.
* `Value.roleWord?`, `RedisSettings.choice` — the word for the role in a reply, and the decision
  that it comes to.
* `Replication.Opens`, `Replication.Decides` — how a client is had, and all that can become of one
  decision (`Replication.exists_decides`).
* `Executor.Round` — a cycle and its decision.
* `Executor.Rounds`, `Executor.DecidesAfresh` — cycles one after the other, whatever happens to the
  world between them, and what is guaranteed of their decisions (`Executor.Rounds.decidesAfresh`).
-/

set_option autoImplicit false

namespace DumpKeeper

/-! ## Faults that are due -/

namespace World

/-- The fault that is due for the call `c` in the world `w`. -/
def fault? (w : World) (c : Call) : Option ServiceFault := (due c.name w.faults).1

/-- The calls to the node that were made in the world `w`. -/
def nodeCalls (w : World) : List Call := w.calls.filter Call.asksNode

/-- What is due for `name` is not used up by `other`. -/
theorem due_of_ne {name other : String} (h : name ≠ other)
    (planned : List (String × Option ServiceFault)) :
    (due name (due other planned).2).1 = (due name planned).1 := by
  rw [(due_eq name _).1, filter_due_of_ne h, ← (due_eq name planned).1]

theorem fault?_ask {w : World} {c d : Call} (h : c.name ≠ d.name) :
    (w.ask d).2.fault? c = w.fault? c := due_of_ne h w.faults

theorem ask_of_fault {w : World} {c : Call} {f : ServiceFault} (h : w.fault? c = some f) :
    (w.ask c).1 = .error f := by
  rw [fault?] at h
  simp only [ask, meet, record, h]

theorem ask_of_no_fault {w : World} {c : Call} (h : w.fault? c = none) :
    (w.ask c).1 = .ok () := by
  rw [fault?] at h
  simp only [ask, meet, record, h]

theorem nodeCalls_ask (w : World) {c : Call} (h : c.asksNode = true) :
    (w.ask c).2.nodeCalls = w.nodeCalls ++ [c] := by
  simp only [nodeCalls, ask, meet, record, List.filter_append, List.filter_cons_of_pos h,
    List.filter_nil]

end World

/-- The run `r` after the call `c`, whether it failed or not. -/
def Run.after (r : Run) (c : Call) : Run := { r with world := (r.world.ask c).2 }

namespace Act

variable {r : Run} {c : Call}

/-- The call `c`, for which the fault `f` is due. -/
theorem on_request_fault {f : ServiceFault} (h : r.world.fault? c = some f) :
    (request c).on r = (.error (.service f), r.after c) := by
  rw [on_request, World.ask_of_fault h]
  rfl

/-- The call `c`, for which no fault is due. -/
theorem on_request_calm (h : r.world.fault? c = none) :
    (request c).on r = (.ok (), r.after c) := by
  rw [on_request, World.ask_of_no_fault h]
  rfl

end Act

/-! ## Entries that are written -/

/-- The entry `e`, as the journal of `r` takes it: not at all if its level is too low. -/
def Run.heard (r : Run) (e : Entry) : Journal :=
  if r.level.number ≤ e.level.number then [e] else []

theorem Act.on_say (level : Level) (source : Source) (message : String) (r : Run) :
    (say level source message).on r =
      (.ok (), { r with journal := r.journal ++ r.heard ⟨level, source, message⟩ }) := by
  rw [say, on_modify, Run.heard]
  dsimp only
  split
  · rfl
  · rw [List.append_nil]

/-! ## What a reply tells -/

/-- The word for the role that a reply has under `role`, blanks around it and letter case aside. -/
def Value.roleWord? : Value → Option String
  | .map entries =>
    match Value.lookup? "role" entries with
    | some (.text s) => some (String.ofList (Text.lowercase (Text.trim s.toList)))
    | _ => none
  | _ => none

/-- The words for a role that `Role.ofInfo` knows. -/
def roleWords : List String := ["master", "primary", "slave", "replica", "secondary"]

/-- The decision that a word for the role comes to under the settings `s`.  Without a word that is
known, a backup is made. -/
def RedisSettings.choice (s : RedisSettings) : Option String → Bool
  | none => true
  | some word =>
    if word ∈ ["master", "primary"] then s.backupMaster
    else if word ∈ ["slave", "replica", "secondary"] then s.backupReplica
    else true

/-- The role that a word from `roleWords` stands for. -/
def roleOfWord : Option String → Role
  | none => .unknown
  | some word =>
    if word ∈ ["master", "primary"] then .primary
    else if word ∈ ["slave", "replica", "secondary"] then .secondary
    else .unknown

theorem Role.ofReported_text (s : String) :
    Role.ofReported (.text s) =
      roleOfWord (some (String.ofList (Text.lowercase (Text.trim s.toList)))) := by
  simp only [ofReported, roleOfWord, primaryWords, secondaryWords, List.contains_iff_mem]

theorem Role.ofInfo_eq (info : Value) : Role.ofInfo info = roleOfWord info.roleWord? := by
  cases info with
  | map entries =>
    rw [ofInfo, Value.roleWord?]
    rcases Value.lookup? "role" entries with _ | v
    · rfl
    · cases v with
      | text s => exact ofReported_text s
      | _ => rfl
  | _ => rfl

theorem RedisSettings.selected_roleOfWord (s : RedisSettings) (word : Option String) :
    (roleOfWord word).selected s.backupMaster s.backupReplica = s.choice word := by
  rcases word with _ | word
  · rfl
  · rw [roleOfWord, choice]
    split
    · rfl
    · split <;> rfl

theorem roleOfWord_eq_unknown_iff (word : Option String) :
    roleOfWord word = .unknown ↔ ∀ w ∈ word, w ∉ roleWords := by
  rcases word with _ | word
  · simp [roleOfWord]
  · simp only [roleOfWord, roleWords, Option.mem_def, Option.some.injEq, forall_eq',
      List.mem_cons, List.not_mem_nil, or_false]
    split
    · rename_i h
      exact ⟨nofun, fun hn => (hn (h.elim .inl fun h => .inr (.inl h))).elim⟩
    · split
      · rename_i h
        exact ⟨nofun, fun hn => (hn (.inr (.inr h))).elim⟩
      · rename_i hp hs
        refine ⟨fun _ h => ?_, fun _ => rfl⟩
        rcases h with h | h | h
        · exact hp (.inl h)
        · exact hp (.inr h)
        · exact hs h

/-! ## One decision -/

/-- The fault `f` as it comes out of a call: those that `counts` are put into the words of `report`,
the others pass through. -/
def ServiceFault.reported (counts : ServiceFault → Bool) (report : ServiceFault → RoleError)
    (f : ServiceFault) : Failure :=
  if counts f then .role (report f) else .service f

namespace Replication

/-- **How a client for `url` is had** in the run `r`: one is kept, or one is made, by the calls
told. -/
inductive Opens (url : String) (r : Run) : List Call → Prop
  | kept (there : r.connected = true) : Opens url r []
  | made (new : r.connected = false) (good : r.world.checkAddress url = .ok ())
      (calm : r.world.fault? (.openRedis url) = none) : Opens url r [.openRedis url]

/-- **All that can become of a decision** under the settings `s` in the run `r`: its answer or
failure, the calls that it makes to the node, whether there is a client then, and what is said. -/
inductive Decides (s : RedisSettings) (r : Run) :
    Except Failure Bool → List Call → Bool → List Entry → Prop
  /-- Where the role does not matter, nobody is asked. -/
  | agreed (same : s.backupMaster = s.backupReplica) :
      Decides s r (.ok s.backupMaster) [] r.connected []
  /-- There is no client, and its address is refused. -/
  | refused {text : String} (differ : s.backupMaster ≠ s.backupReplica)
      (new : r.connected = false) (bad : r.world.checkAddress s.connection = .error text) :
      Decides s r (.error (.role (.noClient (.badValue text)))) [] false []
  /-- There is no client, and none can be made. -/
  | unopened {f : ServiceFault} (differ : s.backupMaster ≠ s.backupReplica)
      (new : r.connected = false) (good : r.world.checkAddress s.connection = .ok ())
      (fault : r.world.fault? (.openRedis s.connection) = some f) :
      Decides s r (.error (f.reported refusesClient .noClient)) [.openRedis s.connection] false []
  /-- There is a client, and the node does not tell its role. -/
  | unanswered {opening : List Call} {f : ServiceFault}
      (differ : s.backupMaster ≠ s.backupReplica) (opens : Opens s.connection r opening)
      (fault : r.world.fault? .askReplication = some f) :
      Decides s r (.error (f.reported ServiceFault.isRedis .noAnswer))
        (opening ++ [.askReplication]) true []
  /-- There is a client, and the node replies.  The reply is all that counts; one that is not
  understood is warned of. -/
  | answered {opening : List Call} {e : Entry} (differ : s.backupMaster ≠ s.backupReplica)
      (opens : Opens s.connection r opening) (calm : r.world.fault? .askReplication = none)
      (warns : e.level = .warning ↔ ∀ w ∈ r.world.info.roleWord?, w ∉ roleWords) :
      Decides s r (.ok (s.choice r.world.info.roleWord?)) (opening ++ [.askReplication]) true [e]

/-- Between `r` and `t` some calls were made to the node, and something was said. -/
structure Turns (r : Run) (made : List Call) (after : Bool) (said : List Entry) (t : Run) :
    Prop where
  /-- Nothing else has happened to the run. -/
  rest : t = { r with world := t.world, connected := after,
                      journal := r.journal ++ said.flatMap r.heard }
  /-- The calls were made in this order. -/
  calls : t.world.nodeCalls = r.world.nodeCalls ++ made
  /-- The reply has not changed. -/
  info : t.world.info = r.world.info

/-- A decision in `r` makes a client: the role matters, there is no client yet, and its construction
does not fail. -/
def Builds (s : RedisSettings) (r : Run) : Prop :=
  s.backupMaster ≠ s.backupReplica ∧ r.connected = false ∧
    r.world.checkAddress s.connection = .ok () ∧ r.world.fault? (.openRedis s.connection) = none

variable {s : RedisSettings} {r : Run}

/-- There is a client behind a decision if there was one before, or if one was made, by `Builds`. -/
theorem Decides.after_iff {answer : Except Failure Bool} {made : List Call} {after : Bool}
    {said : List Entry} (h : Decides s r answer made after said) :
    after = true ↔ r.connected = true ∨ Builds s r := by
  have hopens : ∀ {opening}, s.backupMaster ≠ s.backupReplica → Opens s.connection r opening →
      r.connected = true ∨ Builds s r := by
    rintro opening hd (there | ⟨new, good, calm⟩)
    · exact .inl there
    · exact .inr ⟨hd, new, good, calm⟩
  cases h with
  | agreed same => exact ⟨.inl, fun h => h.elim id fun hb => (hb.1 same).elim⟩
  | refused _ new bad =>
    refine ⟨nofun, ?_⟩
    rintro (h | ⟨-, -, good, -⟩)
    · cases new.symm.trans h
    · cases bad.symm.trans good
  | unopened _ new _ fault =>
    refine ⟨nofun, ?_⟩
    rintro (h | ⟨-, -, -, calm⟩)
    · cases new.symm.trans h
    · cases fault.symm.trans calm
  | unanswered differ opens _ => exact ⟨fun _ => hopens differ opens, fun _ => rfl⟩
  | answered differ opens _ _ => exact ⟨fun _ => hopens differ opens, fun _ => rfl⟩

/-! ### The client -/

theorem openClient_on_bad {url text : String} (h : r.world.checkAddress url = .error text) :
    (openClient url).on r = (.error (.service (.badValue text)), r) := by
  rw [openClient, Act.on_get_bind, h]
  rfl

theorem openClient_on_good {url : String} (h : r.world.checkAddress url = .ok ()) :
    (openClient url).on r = (request (.openRedis url)).on r := by
  rw [openClient, Act.on_get_bind, h]

/-- Where there is no client, `connect url` makes one. -/
theorem connect_on_new {url : String} (h : r.connected = false) :
    (connect url).on r = Act.on (do
      (openClient url).relaying refusesClient fun f => .role (.noClient f)
      modify fun r => { r with connected := true }) r := by
  rw [connect_eq_relaying, Act.on_get_bind]
  exact congrArg (fun t => Act.on t r) (if_neg (by simp [h]))

/-- `connect url` has a client without any further ado if there is one. -/
theorem connect_on_kept {url : String} (h : r.connected = true) :
    (connect url).on r = (.ok (), r) := by
  rw [connect, Act.on_get_bind, if_pos h]
  rfl

theorem connect_on_refused {url text : String} (hnew : r.connected = false)
    (h : r.world.checkAddress url = .error text) :
    (connect url).on r = (.error (.role (.noClient (.badValue text))), r) := by
  rw [connect_on_new hnew, Act.on_bind, Act.on_relaying, openClient_on_bad h]
  rfl

theorem connect_on_unopened {url : String} {f : ServiceFault} (hnew : r.connected = false)
    (h : r.world.checkAddress url = .ok ()) (hf : r.world.fault? (.openRedis url) = some f) :
    (connect url).on r =
      (.error (f.reported refusesClient .noClient), r.after (.openRedis url)) := by
  rw [connect_on_new hnew, Act.on_bind, Act.on_relaying, openClient_on_good h,
    Act.on_request_fault hf]
  rfl

theorem connect_on_made {url : String} (hnew : r.connected = false)
    (h : r.world.checkAddress url = .ok ()) (hf : r.world.fault? (.openRedis url) = none) :
    (connect url).on r = (.ok (), { r.after (.openRedis url) with connected := true }) := by
  rw [connect_on_new hnew, Act.on_bind, Act.on_relaying, openClient_on_good h,
    Act.on_request_calm hf]
  rfl

/-- **A client is had, or it is told why there is none**: `connect url` comes to one of these. -/
theorem connect_cases (url : String) (r : Run) :
    (∃ opening t, Opens url r opening ∧ (connect url).on r = (.ok (), t) ∧
      Turns r opening true [] t ∧ t.world.fault? .askReplication = r.world.fault? .askReplication) ∨
    r.connected = false ∧
      ((∃ text, r.world.checkAddress url = .error text ∧
        (connect url).on r = (.error (.role (.noClient (.badValue text))), r)) ∨
      ∃ f, r.world.checkAddress url = .ok () ∧ r.world.fault? (.openRedis url) = some f ∧
        (connect url).on r =
          (.error (f.reported refusesClient .noClient), r.after (.openRedis url))) := by
  rcases hc : r.connected with _ | _
  · rcases ha : r.world.checkAddress url with text | _
    · exact .inr ⟨rfl, .inl ⟨text, rfl, connect_on_refused hc ha⟩⟩
    · rcases hf : r.world.fault? (.openRedis url) with _ | f
      · refine .inl ⟨_, _, .made hc ha hf, connect_on_made hc ha hf, ⟨?_, ?_, rfl⟩, ?_⟩
        · rw [List.flatMap_nil, List.append_nil]
          rfl
        · exact World.nodeCalls_ask _ rfl
        · exact World.fault?_ask (show "info" ≠ "from_url" by decide)
      · exact .inr ⟨rfl, .inr ⟨f, rfl, rfl, connect_on_unopened hc ha hf⟩⟩
  · refine .inl ⟨[], r, .kept hc, connect_on_kept hc, ⟨?_, ?_, rfl⟩, rfl⟩
    · rw [List.flatMap_nil, List.append_nil, ← hc]
    · rw [List.append_nil]

/-! ### The role -/

theorem ask_on_fault {c : Call} (report : ServiceFault → RoleError) {f : ServiceFault}
    (h : r.world.fault? c = some f) :
    (ask c report).on r = (.error (f.reported ServiceFault.isRedis report), r.after c) := by
  rw [ask_eq_relaying, Act.on_relaying, Act.on_request_fault h]
  rfl

theorem ask_on_calm {c : Call} (report : ServiceFault → RoleError)
    (h : r.world.fault? c = none) :
    (ask c report).on r = (.ok (), r.after c) := by
  rw [ask_eq_relaying, Act.on_relaying, Act.on_request_calm h]
  rfl

/-- What `sayRole` says is a warning if the role is not known. -/
theorem exists_sayRole (s : RedisSettings) (role : Role) :
    ∃ e : Entry, (e.level = .warning ↔ role = .unknown) ∧ ∀ r : Run,
      (sayRole s role).on r = (.ok (), { r with journal := r.journal ++ r.heard e }) := by
  cases role
  · exact ⟨⟨.debug, .role, _⟩, ⟨nofun, nofun⟩, fun r => Act.on_say _ _ _ r⟩
  · exact ⟨⟨.debug, .role, _⟩, ⟨nofun, nofun⟩, fun r => Act.on_say _ _ _ r⟩
  · exact ⟨⟨.warning, .role, _⟩, ⟨fun _ => rfl, fun _ => rfl⟩, fun r => Act.on_say _ _ _ r⟩

theorem Turns.call {made : List Call} {after : Bool} {t : Run} (h : Turns r made after [] t)
    {c : Call} (hc : c.asksNode = true) :
    Turns r (made ++ [c]) after [] (t.after c) where
  rest := by
    rw [h.rest]
    rfl
  calls := (World.nodeCalls_ask t.world hc).trans (by rw [h.calls, List.append_assoc])
  info := h.info

theorem Turns.say {made : List Call} {after : Bool} {t : Run} (h : Turns r made after [] t)
    (e : Entry) :
    Turns r made after [e] { t with journal := t.journal ++ t.heard e } where
  rest := by
    rw [h.rest]
    simp [Run.heard]
  calls := h.calls
  info := h.info

/-- **Every decision is one of those in `Decides`**, and `Turns` tells the run that it leaves. -/
theorem exists_decides (s : RedisSettings) (r : Run) :
    ∃ answer made after said t, (shouldBackup s).on r = (answer, t) ∧
      Decides s r answer made after said ∧ Turns r made after said t := by
  have hnil : ∀ u : Run, Turns u [] u.connected [] u := fun u =>
    ⟨by rw [List.flatMap_nil, List.append_nil], by rw [List.append_nil], rfl⟩
  by_cases hd : s.backupMaster = s.backupReplica
  · have hmatters : ¬ s.roleMatters = true := by simp [RedisSettings.roleMatters, hd]
    refine ⟨_, _, _, _, r, ?_, .agreed hd, hnil r⟩
    rw [shouldBackup, if_neg hmatters]
    rfl
  have hmatters : s.roleMatters = true := by simpa [RedisSettings.roleMatters] using hd
  rw [shouldBackup, if_pos hmatters]
  -- a client is there or is made; or its address is refused, or the call that makes it fails
  rcases connect_cases s.connection r with
    ⟨opening, t, hopens, ht, hturns, hfault⟩ | ⟨hnew, ⟨text, hbad, ht⟩ | ⟨f, hgood, hf, ht⟩⟩
  · rcases hf : r.world.fault? .askReplication with _ | f
    · have hask := ask_on_calm .noAnswer (hfault.trans hf)
      have hturns' := hturns.call (c := .askReplication) rfl
      have hrole : (askRole s.connection).on r = (.ok (roleOfWord r.world.info.roleWord?),
          t.after .askReplication) := by
        rw [askRole, Act.on_bind_ok ht, Act.on_bind_ok hask, Act.on_get_bind, hturns'.info,
          Role.ofInfo_eq]
        rfl
      obtain ⟨e, hwarns, hsay⟩ := exists_sayRole s (roleOfWord r.world.info.roleWord?)
      refine ⟨_, _, _, _, _, ?_, .answered hd hopens hf
        (hwarns.trans (roleOfWord_eq_unknown_iff _)), hturns'.say e⟩
      rw [Act.on_bind_ok hrole, Act.on_bind_ok (hsay _), s.selected_roleOfWord]
      rfl
    · have hask := ask_on_fault .noAnswer (hfault.trans hf)
      refine ⟨_, _, _, _, _, ?_, .unanswered hd hopens hf, hturns.call (c := .askReplication) rfl⟩
      rw [askRole]
      exact Act.on_bind_error ((Act.on_bind_ok ht).trans (Act.on_bind_error hask))
  · refine ⟨_, _, _, _, r, ?_, .refused hd hnew hbad, hnew ▸ hnil r⟩
    rw [askRole]
    exact Act.on_bind_error (Act.on_bind_error ht)
  · have hturns := (hnil r).call (c := .openRedis s.connection) rfl
    rw [hnew] at hturns
    refine ⟨_, _, _, _, _, ?_, .unopened hd hnew hgood hf, hturns⟩
    rw [askRole]
    exact Act.on_bind_error (Act.on_bind_error ht)

end Replication

/-! ## One cycle -/

open Replication

/-- **A cycle of `x` and its decision**, in the run `b`. -/
structure Executor.Round (x : Executor) (b : Run) (answer : Except Failure Bool)
    (made : List Call) (after : Bool) (said : List Entry) : Prop where
  /-- The decision is one that can be. -/
  decides : Decides x.config.redis b answer made after said
  /-- A cycle that cannot decide fails with the reason. -/
  fails : ∀ f, answer = .error f → ((runCycle x).on b).1 = .error f
  /-- A cycle that has decided goes on from there. -/
  goesOn : ∀ selected, answer = .ok selected →
    ∃ t, t.journal = b.journal ++ said.flatMap b.heard ∧
      (runCycle x).on b = (proceed x selected).on t
  /-- The node is asked for nothing else. -/
  calls : ((runCycle x).on b).2.world.nodeCalls = b.world.nodeCalls ++ made
  /-- Nor is anything else done about its client. -/
  connected : ((runCycle x).on b).2.connected = after

/-- The step `t` fails as it does when it is not counted. -/
theorem counted_on_error {α : Type} (counts : Failure → Bool) {t : Act α} {r s : Run} {f : Failure}
    (h : t.on r = (.error f, s)) :
    ∃ u, (counted counts t).on r = (.error f, u) ∧ u.world = s.world ∧
      u.connected = s.connected := by
  rw [counted, Act.on_bind, Act.on_attempt, h]
  dsimp only
  split
  · exact ⟨_, rfl, rfl, rfl⟩
  · exact ⟨s, rfl, rfl, rfl⟩

theorem counted_on_ok {α : Type} {counts : Failure → Bool} {t : Act α} {r s : Run} {a : α}
    (h : t.on r = (.ok a, s)) : (counted counts t).on r = (.ok a, s) := by
  rw [counted, Act.on_bind, Act.on_attempt, h]
  rfl

/-- **Every cycle of `x` decides once, and then leaves the node alone.** -/
theorem Executor.exists_round (x : Executor) (b : Run) :
    ∃ answer made after said, x.Round b answer made after said := by
  let r : Run := { b with metrics := b.metrics.tick .attempted }
  obtain ⟨answer, made, after, said, t, ht, hdecides, hturns⟩ := exists_decides x.config.redis r
  -- `r` has counted one attempt more than `b`, and no decision looks at the counters
  have hb : Decides x.config.redis b answer made after said := by
    cases hdecides with
    | agreed same => exact .agreed same
    | refused differ new bad => exact .refused differ new bad
    | unopened differ new good fault => exact .unopened differ new good fault
    | unanswered differ opens fault =>
      cases opens with
      | kept there => exact .unanswered differ (.kept there) fault
      | made new good calm => exact .unanswered differ (.made new good calm) fault
    | answered differ opens calm warns =>
      cases opens with
      | kept there => exact .answered differ (.kept there) calm warns
      | made new good calm' => exact .answered differ (.made new good calm') calm warns
  have hcycle : (runCycle x).on b = Act.on (counted Failure.isRole (shouldBackup x.config.redis) >>=
      proceed x) r := by
    rw [runCycle_eq_proceed]
    exact Act.on_bind_ok (Act.on_count _ _)
  have hafter : t.connected = after := by rw [hturns.rest]
  refine ⟨answer, made, after, said, ?_⟩
  rcases answer with f | selected
  · obtain ⟨u, hu, hworld, hconn⟩ := counted_on_error Failure.isRole ht
    have hon : (runCycle x).on b = (.error f, u) := hcycle.trans (Act.on_bind_error hu)
    refine ⟨hb, ?_, nofun, ?_, ?_⟩
    · rintro _ ⟨⟩
      rw [hon]
    · rw [hon, hworld, hturns.calls]
    · rw [hon, hconn, hafter]
  · have hon : (runCycle x).on b = (proceed x selected).on t :=
      hcycle.trans (Act.on_bind_ok (counted_on_ok ht))
    have hwithin := (isModest_proceed x selected).within t
    refine ⟨hb, nofun, ?_, ?_, ?_⟩
    · rintro _ ⟨⟩
      refine ⟨t, ?_, hon⟩
      rw [hturns.rest]
      rfl
    · rw [hon]
      have hnone : ∀ c : Call, c.asksStore = true → c.asksNode = false := fun c hc => by
        cases c <;> first | rfl | cases hc
      exact (hwithin.calls.filter_eq hnone).trans hturns.calls
    · rw [hon, hwithin.connected fun _ => rfl, hafter]

/-! ## Cycles in a row -/

/-- Between `s` and `b` nothing was done about the node; everything else may have happened. -/
structure Run.Aloof (s b : Run) : Prop where
  /-- It has a client in both, or in none. -/
  connected : b.connected = s.connected
  /-- Nobody has called it. -/
  calls : b.world.nodeCalls = s.world.nodeCalls

/-- **Cycles one after the other**, from `r` to `s`: the runs that they were begun in, the latest
one first. -/
inductive Executor.Rounds (x : Executor) (r : Run) : List Run → Run → Prop
  | none : x.Rounds r [] r
  | next {earlier : List Run} {s b : Run} (rounds : x.Rounds r earlier s) (between : s.Aloof b) :
      x.Rounds r (b :: earlier) ((runCycle x).on b).2

/-- **What is guaranteed of the decisions** of cycles from `r` to `s`. -/
structure Executor.DecidesAfresh (x : Executor) (r : Run) (rounds : List Run) (s : Run) : Prop where
  /-- Every cycle decides for itself: by the flags, by the reply that it gets, and by the faults
  that it meets. -/
  each : ∀ b ∈ rounds, ∃ answer made after said, x.Round b answer made after said
  /-- Where the flags agree, the node is never called, and no client of it is made. -/
  silent : x.config.redis.backupMaster = x.config.redis.backupReplica →
    s.world.nodeCalls = r.world.nodeCalls ∧ s.connected = r.connected
  /-- There is a client just when there was one from the beginning, or when an earlier cycle has
  made one.  A failure to make it leaves nothing behind. -/
  connected : ∀ b earlier, b :: earlier <:+ rounds →
    (b.connected = true ↔ r.connected = true ∨ ∃ e ∈ earlier, Builds x.config.redis e)
  /-- A client is made at most once. -/
  once : ∀ b earlier, b :: earlier <:+ rounds → Builds x.config.redis b →
    ∀ e ∈ earlier, ¬Builds x.config.redis e
  /-- Until there is one, every cycle that needs it tries to make it. -/
  tries : ∀ b earlier, b :: earlier <:+ rounds →
    x.config.redis.backupMaster ≠ x.config.redis.backupReplica →
    b.world.checkAddress x.config.redis.connection = .ok () → r.connected = false →
    (∀ e ∈ earlier, ¬Builds x.config.redis e) →
    ∃ more, ((runCycle x).on b).2.world.nodeCalls =
      b.world.nodeCalls ++ .openRedis x.config.redis.connection :: more

namespace Executor.Rounds

variable {x : Executor} {r s : Run} {rounds : List Run}

/-- There is a client behind the `rounds` just when there was one at first, or when a cycle has made
one. -/
theorem connected_iff (h : x.Rounds r rounds s) :
    s.connected = true ↔ r.connected = true ∨ ∃ e ∈ rounds, Builds x.config.redis e := by
  induction h with
  | none => simp
  | @next earlier s b _ between ih =>
    obtain ⟨answer, made, after, said, hround⟩ := x.exists_round b
    rw [hround.connected, hround.decides.after_iff, between.connected, ih, or_assoc]
    refine or_congr_right ?_
    simp only [List.mem_cons, exists_eq_or_imp, or_comm]

/-- What holds of the `rounds` holds of all of their beginnings. -/
theorem of_suffix (h : x.Rounds r rounds s) {b : Run} {earlier : List Run}
    (hs : b :: earlier <:+ rounds) : ∃ t, x.Rounds r earlier t ∧ t.Aloof b := by
  induction h with
  | none => cases List.eq_nil_of_suffix_nil hs
  | next rounds between ih =>
    rcases List.suffix_cons_iff.1 hs with heq | hs
    · cases heq
      exact ⟨_, rounds, between⟩
    · exact ih hs

/-- Where the flags agree, nothing is done about the node in any of the `rounds`. -/
theorem aloof_of_agree (h : x.Rounds r rounds s)
    (hsame : x.config.redis.backupMaster = x.config.redis.backupReplica) : r.Aloof s := by
  induction h with
  | none => exact ⟨rfl, rfl⟩
  | @next earlier s b _ between ih =>
    obtain ⟨answer, made, after, said, hround⟩ := x.exists_round b
    have hcalls := hround.calls
    have hconn := hround.connected
    cases hround.decides with
    | agreed =>
      rw [List.append_nil] at hcalls
      exact ⟨hconn.trans (between.connected.trans ih.connected),
        hcalls.trans (between.calls.trans ih.calls)⟩
    -- all other decisions are for flags that differ
    | refused differ | unopened differ | unanswered differ | answered differ =>
      exact (differ hsame).elim

/-- **Every decision is made afresh**, and the client for it is made once: what `DecidesAfresh` says
holds of any `rounds`. -/
theorem decidesAfresh (h : x.Rounds r rounds s) : x.DecidesAfresh r rounds s := by
  have hconn : ∀ b earlier, b :: earlier <:+ rounds →
      (b.connected = true ↔ r.connected = true ∨ ∃ e ∈ earlier, Builds x.config.redis e) := by
    intro b earlier hs
    obtain ⟨t, ht, between⟩ := h.of_suffix hs
    rw [between.connected, ht.connected_iff]
  refine ⟨fun b _ => x.exists_round b, fun hsame => ?_, hconn, ?_, ?_⟩
  · exact ⟨(h.aloof_of_agree hsame).calls, (h.aloof_of_agree hsame).connected⟩
  · intro b earlier hs hb e he hbuilds
    -- an earlier client would still be there, and whoever makes one finds none
    have hthere := (hconn b earlier hs).2 (.inr ⟨e, he, hbuilds⟩)
    cases hthere.symm.trans hb.2.1
  · intro b earlier hs hdiffer hgood hr hnone
    have hnew : b.connected = false := by
      rw [← Bool.not_eq_true, hconn b earlier hs]
      rintro (hthere | ⟨e, he, hbuilds⟩)
      · cases hr.symm.trans hthere
      · exact hnone e he hbuilds
    obtain ⟨answer, made, after, said, hround⟩ := x.exists_round b
    have hopens : ∀ {opening}, Opens x.config.redis.connection b opening →
        opening = [.openRedis x.config.redis.connection] := by
      rintro _ (there | _)
      · cases hnew.symm.trans there
      · rfl
    have hmade : ∃ more, made = .openRedis x.config.redis.connection :: more := by
      cases hround.decides with
      | agreed same => exact (hdiffer same).elim
      | refused _ _ bad => cases bad.symm.trans hgood
      | unopened => exact ⟨_, rfl⟩
      | unanswered _ opens => exact ⟨_, by rw [hopens opens]; rfl⟩
      | answered _ opens => exact ⟨_, by rw [hopens opens]; rfl⟩
    obtain ⟨more, rfl⟩ := hmade
    exact ⟨more, hround.calls⟩

end Executor.Rounds

/-! ### A failover -/

/-- An executor that backs up a primary only. -/
def Executor.ofPrimary : Executor := ⟨{ redis := { backupReplica := false } }, ⟨.s3, "b"⟩⟩

/-- A node whose client cannot be made at first, and which fails to reply once. -/
def Run.unsteady : Run :=
  { world :=
      { faults :=
          [("from_url", some (.redis "down")), ("info", none), ("info", some (.redis "gone"))]
        info := .map [(.text "role", .text " Master ")] } }

/-- The run after a cycle that `x` makes in `b`. -/
def Executor.afterRound (x : Executor) (b : Run) : Run := ((runCycle x).on b).2

/-- The run in which the second cycle is begun, after one in `Run.unsteady`. -/
def Run.unsteady₂ : Run := Executor.ofPrimary.afterRound .unsteady

/-- The run of the third cycle. -/
def Run.unsteady₃ : Run := Executor.ofPrimary.afterRound .unsteady₂

/-- The run of the fourth cycle, before which the node has become a replica. -/
def Run.unsteady₄ : Run :=
  ((changeWorld (·.change (.role (.map [(.text "role", .text "slave")])))).on
    (Executor.ofPrimary.afterRound .unsteady₃)).2

/-- **A client is made in the second cycle**, after the first one could not make it, and serves the
others: `Builds` holds there only.  What was decided for the primary is not decided for the
replica. -/
theorem decidesAfresh_unsteady :
    Executor.ofPrimary.Rounds .unsteady [.unsteady₄, .unsteady₃, .unsteady₂, .unsteady]
      (Executor.ofPrimary.afterRound .unsteady₄) ∧
    Executor.ofPrimary.DecidesAfresh .unsteady [.unsteady₄, .unsteady₃, .unsteady₂, .unsteady]
      (Executor.ofPrimary.afterRound .unsteady₄) ∧
    Builds Executor.ofPrimary.config.redis .unsteady₂ ∧
    [Run.unsteady, .unsteady₂, .unsteady₃, .unsteady₄].map (fun b =>
      ((shouldBackup Executor.ofPrimary.config.redis).on b).1) =
      [.error (.role (.noClient (.redis "down"))), .ok true,
        .error (.role (.noAnswer (.redis "gone"))), .ok false] := by
  have hrounds : Executor.ofPrimary.Rounds .unsteady
      [.unsteady₄, .unsteady₃, .unsteady₂, .unsteady]
      (Executor.ofPrimary.afterRound .unsteady₄) :=
    .next (.next (.next (.next .none ⟨rfl, rfl⟩) ⟨rfl, rfl⟩) ⟨rfl, rfl⟩) ⟨rfl, rfl⟩
  refine ⟨hrounds, hrounds.decidesAfresh, ⟨by decide, rfl, rfl, rfl⟩, rfl⟩

end DumpKeeper
