import DumpKeeper.Proofs.Act
import DumpKeeper.Replication

/-!
# When a node is backed up

Asking a node for its role touches no object, whichever calls fail.

* `Replication.Permits` — the role of the node, as it is in a run, permits a backup.
* `Replication.shouldBackup_ends` — where no fault is planned, the answer is just that.
-/

set_option autoImplicit false

namespace DumpKeeper.Replication

/-- In the run `r` a client is there, or one can be made for `url`. -/
def CanAsk (url : String) (r : Run) : Prop :=
  r.connected = true ∨ r.world.checkAddress url = .ok ()

/-- In the run `r` the node is to be backed up under the settings `s`: by its role if that matters,
and then it must be possible to ask for it. -/
def Permits (s : RedisSettings) (r : Run) : Prop :=
  if s.roleMatters then
    CanAsk s.connection r ∧
      (Role.ofInfo r.world.info).selected s.backupMaster s.backupReplica = true
  else s.backupMaster = true

/-! ## Faults that are reported -/

theorem ask_eq_relaying (c : Call) (report : ServiceFault → RoleError) :
    ask c report = (request c).relaying ServiceFault.isRedis fun f => .role (report f) := by
  refine bind_congr fun answer => ?_
  rcases answer with f | _
  · cases f <;> rfl
  · rfl

/-- A client for `url` is there, or one is made; the faults of that are reported. -/
theorem connect_eq_relaying (url : String) :
    connect url = (do
      if (← get).connected then return
      (openClient url).relaying refusesClient fun f => .role (.noClient f)
      modify fun r => { r with connected := true }) := by
  refine bind_congr fun r => ?_
  by_cases hc : r.connected = true
  · rw [if_pos hc, if_pos hc]
  rw [if_neg hc, if_neg hc, Act.relaying_bind]
  refine bind_congr fun answer => ?_
  rcases answer with f | _
  · cases f <;> rfl
  · rfl

/-! ## Whether a node can be asked -/

variable {r : Run}

theorem openClient_ends (url : String) (r : Run) :
    (openClient url).Ends r (fun _ s => r.Quiet s ∧ r.world.checkAddress url = .ok ())
      fun _ s => r.Quiet s ∧ (r.world.faults = [] → r.world.checkAddress url ≠ .ok ()) := by
  refine Act.Ends.get_bind ?_
  rcases h : r.world.checkAddress url with text | u
  · exact Act.Ends.fail ⟨Run.Quiet.refl r, fun _ h => by cases h⟩
  · exact (Act.request_ends _ r).mono (fun _ _ hd => ⟨hd.1, rfl⟩) fun _ _ hf =>
      ⟨hf.1, fun hr => absurd hr hf.2.1⟩

theorem connect_ends (url : String) (r : Run) :
    (connect url).Ends r (fun _ s => r.Quiet s ∧ CanAsk url r)
      fun _ s => r.Quiet s ∧ (r.world.faults = [] → ¬CanAsk url r) := by
  rw [connect_eq_relaying]
  refine Act.Ends.get_bind ?_
  by_cases hc : r.connected = true
  · rw [if_pos hc]
    exact Act.Ends.pure ⟨Run.Quiet.refl r, .inl hc⟩
  rw [if_neg hc]
  have hopen : ((openClient url).relaying refusesClient fun f => .role (.noClient f)).Ends r
      (fun _ s => r.Quiet s ∧ r.world.checkAddress url = .ok ())
      fun _ s => r.Quiet s ∧ (r.world.faults = [] → ¬CanAsk url r) := by
    refine (openClient_ends url r).relaying fun f s ⟨hq, hf⟩ => ⟨hq, fun hr h => ?_⟩
    exact h.elim (fun h => hc h) fun h => hf hr h
  refine hopen.bind fun _ s hs => ?_
  exact Act.ends_of_ok rfl ⟨hs.1.trans (Run.Quiet.of_world rfl), .inr hs.2⟩

theorem ask_ends (c : Call) (report : ServiceFault → RoleError) (r : Run) :
    (ask c report).Ends r (fun _ s => r.Quiet s) fun _ s => r.Quiet s ∧ r.world.faults ≠ [] := by
  rw [ask_eq_relaying]
  refine Act.Ends.relaying ((Act.request_ends c r).mono (fun _ _ hs => hs.1) ?_) fun _ _ h => h
  exact fun _ _ hs => ⟨hs.1, hs.2.1⟩

/-- The node at `url` tells its role, unless it cannot be asked: `CanAsk`. -/
theorem askRole_ends (url : String) (r : Run) :
    (askRole url).Ends r
      (fun role s => r.Quiet s ∧ CanAsk url r ∧ role = Role.ofInfo r.world.info)
      fun _ s => r.Quiet s ∧ (r.world.faults = [] → ¬CanAsk url r) := by
  refine (connect_ends url r).bind ?_
  rintro _ s ⟨hs, hc⟩
  refine (ask_ends _ _ s).bind_of ?_ fun _ t ht => ?_
  · rintro _ t ⟨ht, hf⟩
    exact ⟨hs.trans ht, fun hr => absurd (hs.calm hr) hf⟩
  · have hq := hs.trans ht
    exact Act.Ends.get_bind (Act.Ends.pure ⟨hq, hc, congrArg Role.ofInfo hq.info⟩)

/-- **The node is backed up just when its role permits it**, by `Permits`.  Asking for the role
fails without a fault only if the node cannot be asked. -/
theorem shouldBackup_ends (s : RedisSettings) (r : Run) :
    (shouldBackup s).Ends r (fun selected t => r.Quiet t ∧ (selected = true ↔ Permits s r))
      fun _ t => r.Quiet t ∧ (r.world.faults = [] → ¬Permits s r) := by
  rw [shouldBackup, Permits]
  split
  · refine (askRole_ends s.connection r).bind_of ?_ ?_
    · rintro _ t ⟨ht, hf⟩
      exact ⟨ht, fun hr h => hf hr h.1⟩
    rintro role t ⟨ht, hc, rfl⟩
    have hsay : (sayRole s (Role.ofInfo r.world.info)).IsAside := by
      cases Role.ofInfo r.world.info <;> exact Act.isAside_say _ _ _
    refine hsay.ends_bind fun _ u hu => Act.Ends.pure ?_
    exact ⟨ht.trans (Run.Quiet.of_world hu), fun h => ⟨hc, h⟩, fun h => h.2⟩
  · exact Act.Ends.pure ⟨Run.Quiet.refl r, Iff.rfl⟩

end DumpKeeper.Replication
