import DumpKeeper.Cycle
import DumpKeeper.Proofs.Calls
import DumpKeeper.Proofs.Replication
import DumpKeeper.Proofs.Storage

/-!
# What cycles are made of

Whatever a cycle does is put together from a few acts: it looks at the world, changes it, makes
calls, counts and writes to the journal.  What all of these have in common is found out here once,
by induction on how an act is put together, and then holds of a cycle and of each of its parts.

* `Call.asksStore`, `Call.asksNode`, `Call.isCycles` — the calls that are made in a cycle.
* `World.view`, `Run.Resembles` — what a cycle can see of a run.  It sees neither the calls that
  were made, nor any file but the dump.
* `World.Blind` — a change of the world that does not depend on the rest of it either.
* `Act.IsModest K dump t` — `t` is put together from acts that see no more than that, and makes
  calls of the kind `K` only.
* `Run.Within`, `Act.IsModest.within` — what a modest act leaves as it is, however it ends.
* `isModest_proceed`, `isModest_runCycle` — a cycle is modest, and behind its decision it makes
  calls to the store only (`runCycle_eq_proceed`).
-/

set_option autoImplicit false

namespace DumpKeeper

/-! ## Calls -/

/-- The calls to a store that is connected. -/
def Call.asksStore : Call → Bool
  | .putObject .. | .beginUpload .. | .uploadPart .. | .completeUpload .. | .abortUpload ..
  | .deleteObject .. | .listPage .. | .uploadBlob .. | .deleteBlob .. | .listBlobs .. => true
  | _ => false

/-- The calls to the node, the one that makes its client included. -/
def Call.asksNode : Call → Bool
  | .openRedis _ | .askReplication | .ping => true
  | _ => false

/-- The calls that are made in a cycle: `asksStore` and `asksNode`. -/
def Call.isCycles (c : Call) : Bool := c.asksStore || c.asksNode

theorem Call.isCycles_of_asksStore {c : Call} (h : c.asksStore = true) : c.isCycles = true := by
  rw [isCycles, h, Bool.true_or]

theorem Call.isCycles_of_asksNode {c : Call} (h : c.asksNode = true) : c.isCycles = true := by
  rw [isCycles, h, Bool.or_true]

/-! ## What can be seen -/

/-- What the world `w` shows apart from its files and from the calls that were made in it. -/
def World.view (w : World) : World := { w with calls := [], files := .ofEntries [] }

/-- **Nothing that a cycle looks at tells `r` and `s` apart.**  Of the files it looks at `dump`
only. -/
structure Run.Resembles (dump : FilePath) (r s : Run) : Prop where
  /-- The worlds show the same. -/
  view : r.world.view = s.world.view
  /-- So does the dump. -/
  found : ∀ c, r.world.files.ask c dump = s.world.files.ask c dump
  /-- The node has a client in both, or in none. -/
  connected : r.connected = s.connected

namespace Run.Resembles

variable {dump : FilePath} {r s : Run}

theorem faults (h : r.Resembles dump s) : r.world.faults = s.world.faults :=
  (congrArg World.faults h.view :)

theorem now (h : r.Resembles dump s) : r.world.now = s.world.now :=
  (congrArg World.now h.view :)

theorem elapsed (h : r.Resembles dump s) : r.world.elapsed = s.world.elapsed :=
  (congrArg World.elapsed h.view :)

theorem objects (h : r.Resembles dump s) : r.world.objects = s.world.objects :=
  (congrArg World.objects h.view :)

theorem listing (h : r.Resembles dump s) (beginning : String) :
    r.world.listing beginning = s.world.listing beginning :=
  (congrArg (World.listing · beginning) h.view :)

theorem limits (h : r.Resembles dump s) : r.world.limits = s.world.limits :=
  (congrArg World.limits h.view :)

theorem pageSize (h : r.Resembles dump s) : r.world.pageSize = s.world.pageSize :=
  (congrArg World.pageSize h.view :)

theorem info (h : r.Resembles dump s) : r.world.info = s.world.info :=
  (congrArg World.info h.view :)

theorem partMark (h : r.Resembles dump s) : r.world.partMark = s.world.partMark :=
  (congrArg World.partMark h.view :)

theorem checkAddress (h : r.Resembles dump s) : r.world.checkAddress = s.world.checkAddress :=
  (congrArg World.checkAddress h.view :)

theorem uploads (h : r.Resembles dump s) : r.world.uploads = s.world.uploads :=
  (congrArg World.uploads h.view :)

theorem isThere (h : r.Resembles dump s) :
    r.world.files.isThere dump = s.world.files.isThere dump := by
  rw [FileTree.isThere, h.found, FileTree.isThere]

theorem stat (h : r.Resembles dump s) : r.world.files.stat dump = s.world.files.stat dump :=
  h.found .stat

theorem read (h : r.Resembles dump s) : r.world.files.read dump = s.world.files.read dump := by
  rw [FileTree.read, h.found, FileTree.read]

end Run.Resembles

/-- `g` changes the world without looking at its files and calls or touching them, plans no faults
and leaves the check of addresses as it is. -/
structure World.Blind (g : World → World) : Prop where
  /-- Files and calls may as well be put in behind the change. -/
  away : ∀ (w : World) calls files,
    g { w with calls := calls, files := files } = { g w with calls := calls, files := files }
  /-- Faults are used up at most. -/
  faults : ∀ w, (g w).faults ⊆ w.faults
  /-- Addresses are checked as before. -/
  checkAddress : ∀ w, (g w).checkAddress = w.checkAddress

namespace World.Blind

variable {g : World → World}

theorem calls (h : Blind g) (w : World) : (g w).calls = w.calls :=
  (congrArg World.calls (h.away w w.calls w.files) :)

theorem files (h : Blind g) (w : World) : (g w).files = w.files :=
  (congrArg World.files (h.away w w.calls w.files) :)

theorem view (h : Blind g) (w : World) : (g w).view = g w.view := (h.away w _ _).symm

theorem store (key : String) (content : ByteArray) (now : DateTime) :
    Blind fun w => w.store key content now :=
  ⟨fun _ _ _ => rfl, fun _ => List.Subset.refl _, fun _ => rfl⟩

theorem discard (key : String) : Blind fun w => w.discard key :=
  ⟨fun _ _ _ => rfl, fun _ => List.Subset.refl _, fun _ => rfl⟩

theorem keepPart (id : String) (number : Nat) (body : ByteArray) :
    Blind fun w => (w.keepPart id number body).2 :=
  ⟨fun _ _ _ => rfl, fun _ => List.Subset.refl _, fun _ => rfl⟩

theorem begin : Blind fun w => w.begin.2 :=
  ⟨fun _ _ _ => rfl, fun _ => List.Subset.refl _, fun _ => rfl⟩

theorem meet (name : String) : Blind fun w => (w.meet name).2 :=
  ⟨fun _ _ _ => rfl, fun w => meet_snd_subset w name, fun _ => rfl⟩

end World.Blind

/-! ## Modest acts -/

namespace Act

/-- **An act put together from a few others**: it sees no more of a run than a cycle does, it makes
calls of the kind `K` only, and it leaves the scheduler and the settings of the journal alone. -/
inductive IsModest (K : Call → Bool) (dump : FilePath) : {α : Type} → Act α → Prop
  | pure {α : Type} (a : α) : IsModest K dump (pure a : Act α)
  | fail {α : Type} (f : Failure) : IsModest K dump (fail f : Act α)
  | bind {α β : Type} {t : Act α} {f : α → Act β} (first : IsModest K dump t)
      (next : ∀ a, IsModest K dump (f a)) : IsModest K dump (t >>= f)
  | attempt {α : Type} {t : Act α} (tried : IsModest K dump t) : IsModest K dump (attempt t)
  | look {α : Type} {f : Run → Act α} (next : ∀ r, IsModest K dump (f r))
      (alike : ∀ r s : Run, r.Resembles dump s → f r = f s) : IsModest K dump (get >>= f)
  | say (level : Level) (source : Source) (message : String) :
      IsModest K dump (say level source message)
  | tally (g : Metrics → Metrics) :
      IsModest K dump (modify fun r : Run => { r with metrics := g r.metrics })
  | request {c : Call} (kind : K c = true) : IsModest K dump (request c)
  | change {g : World → World} (blind : World.Blind g) : IsModest K dump (changeWorld g)
  | connected (url : String) (kind : K (.openRedis url) = true) :
      IsModest K dump (modify fun r : Run => { r with connected := true })

namespace IsModest

variable {K K' : Call → Bool} {dump : FilePath} {α : Type}

theorem ite {c : Prop} [Decidable c] {t u : Act α} (ht : IsModest K dump t)
    (hu : IsModest K dump u) : IsModest K dump (if c then t else u) := by
  split
  · exact ht
  · exact hu

/-- More kinds of calls, `K'` instead of `K`, may be permitted. -/
theorem mono {t : Act α} (h : IsModest K dump t) (hK : ∀ c, K c = true → K' c = true) :
    IsModest K' dump t := by
  induction h with
  | pure a => exact .pure a
  | fail f => exact .fail f
  | bind _ _ iht ihf => exact .bind iht ihf
  | attempt _ ih => exact .attempt ih
  | look _ alike ih => exact .look ih alike
  | say level source message => exact .say level source message
  | tally g => exact .tally g
  | request kind => exact .request (hK _ kind)
  | change blind => exact .change blind
  | connected url kind => exact .connected url (hK _ kind)

theorem liftM (e : Except Failure α) : IsModest K dump (liftM e : Act α) := by
  rcases e with f | a
  · exact .fail f
  · exact .pure a

theorem count (c : Counter) : IsModest K dump (count c) := .tally fun m => m.tick c

theorem observe (d : Distribution) (a : Amount) : IsModest K dump (observe d a) :=
  .tally fun m => m.observe d a

theorem currentTime : IsModest K dump currentTime := by
  refine .look (fun r => ?_) fun r s h => by rw [h.now]
  rcases DateTime.ofReading r.world.now with f | t
  · exact .fail _
  · exact .pure t

/-- A change `g` of the world that the world itself decides on. -/
theorem replace {g : World → World} (hg : World.Blind g) {f : Run → Act α}
    (hf : ∀ r, IsModest K dump (f r)) (alike : ∀ r s : Run, r.Resembles dump s → f r = f s) :
    IsModest K dump (get >>= fun r => changeWorld (fun _ => g r.world) >>= fun _ => f r) := by
  have hsame : (get >>= fun r => changeWorld (fun _ => g r.world) >>= fun _ => f r : Act α) =
      get >>= fun r => changeWorld g >>= fun _ => f r := Act.ext fun _ => rfl
  rw [hsame]
  exact .look (fun r => .bind (.change hg) fun _ => hf r) fun r s h => by rw [alike r s h]

end IsModest

end Act

/-! ### What they leave as it is -/

/-- Between `r` and `s` some calls of the kind `K` were made. -/
def Run.Calls (K : Call → Bool) (r s : Run) : Prop :=
  ∃ made, s.world.calls = r.world.calls ++ made ∧ ∀ c ∈ made, K c = true

/-- **What modest acts leave as it is** between `r` and `s`. -/
structure Run.Within (K : Call → Bool) (r s : Run) : Prop where
  /-- They change nothing but the world, the journal, the counters, and whether there is a
  client. -/
  rest : s = { r with world := s.world, journal := s.journal, metrics := s.metrics,
                      connected := s.connected }
  /-- They touch no file. -/
  files : s.world.files = r.world.files
  /-- They plan no fault. -/
  faults : s.world.faults ⊆ r.world.faults
  /-- They make calls of one kind only. -/
  calls : r.Calls K s
  /-- A client is made by calls of its own kind. -/
  connected : (∀ url, K (.openRedis url) = false) → s.connected = r.connected

namespace Run

variable {K K' : Call → Bool} {r s t : Run}

theorem Calls.refl (r : Run) : r.Calls K r := ⟨[], (List.append_nil _).symm, by simp⟩

theorem Calls.trans (h : r.Calls K s) (h' : s.Calls K t) : r.Calls K t := by
  obtain ⟨made, hs, hmade⟩ := h
  obtain ⟨more, ht, hmore⟩ := h'
  refine ⟨made ++ more, by rw [ht, hs, List.append_assoc], fun c hc => ?_⟩
  exact (List.mem_append.1 hc).elim (hmade c) (hmore c)

theorem Calls.of_eq (h : s.world.calls = r.world.calls) : r.Calls K s :=
  ⟨[], by rw [h, List.append_nil], by simp⟩

theorem Calls.mono (h : r.Calls K s) (hK : ∀ c, K c = true → K' c = true) : r.Calls K' s := by
  obtain ⟨made, hs, hmade⟩ := h
  exact ⟨made, hs, fun c hc => hK c (hmade c hc)⟩

/-- One call `c`, of a kind in `K`. -/
theorem Calls.record {c : Call} (hc : K c = true) (hs : s.world.calls = r.world.calls ++ [c]) :
    r.Calls K s := by
  refine ⟨[c], hs, fun d hd => ?_⟩
  rwa [List.mem_singleton.1 hd]

/-- Where all calls are of a kind in `K`, none of a kind `P` outside it was made. -/
theorem Calls.filter_eq (h : r.Calls K s) {P : Call → Bool} (hP : ∀ c, K c = true → P c = false) :
    s.world.calls.filter P = r.world.calls.filter P := by
  obtain ⟨made, hs, hmade⟩ := h
  have hnone : made.filter P = [] :=
    List.filter_eq_nil_iff.2 fun c hc => by simp [hP c (hmade c hc)]
  rw [hs, List.filter_append, hnone, List.append_nil]

theorem Within.refl (r : Run) : r.Within K r :=
  ⟨rfl, rfl, List.Subset.refl _, .refl r, fun _ => rfl⟩

theorem Within.trans (h : r.Within K s) (h' : s.Within K t) : r.Within K t where
  rest := by rw [h'.rest, h.rest]
  files := h'.files.trans h.files
  faults := List.Subset.trans h'.faults h.faults
  calls := h.calls.trans h'.calls
  connected := fun hK => (h'.connected hK).trans (h.connected hK)

theorem Within.timer (h : r.Within K s) : s.timer = r.timer := by rw [h.rest]

theorem Within.executor (h : r.Within K s) : s.executor = r.executor := by rw [h.rest]

/-- Nothing but the `journal` and the `metrics` has changed. -/
theorem Within.of_eq (h : s = { r with journal := s.journal, metrics := s.metrics }) :
    r.Within K s := by
  rw [h]
  exact ⟨rfl, rfl, List.Subset.refl _, .refl r, fun _ => rfl⟩

end Run

/-- **What the modest act `t` leaves as it is, however it ends**, by `Run.Within`. -/
theorem Act.IsModest.within {K : Call → Bool} {dump : FilePath} {α : Type} {t : Act α}
    (h : t.IsModest K dump) (r : Run) : r.Within K (t.on r).2 := by
  induction h generalizing r with
  | pure | fail => exact .refl r
  | @bind _ _ t f _ _ iht ihf =>
    have hr := iht r
    rw [on_bind]
    rcases ht : t.on r with ⟨e | a, s⟩
    · rwa [ht] at hr
    · rw [ht] at hr
      exact hr.trans (ihf a s)
  | attempt _ ih => exact ih r
  | look _ _ ih => exact ih r r
  | say level source message =>
    rw [DumpKeeper.say, on_modify]
    split
    · exact .of_eq rfl
    · exact .refl r
  | tally => exact .of_eq rfl
  -- a call may use up a planned fault, and plans none
  | @request c kind =>
    rw [on_request]
    exact ⟨rfl, rfl, World.ask_snd_subset r.world c, .record kind rfl, fun _ => rfl⟩
  | change blind =>
    rw [on_changeWorld]
    exact ⟨rfl, blind.files r.world, blind.faults r.world, .of_eq (blind.calls r.world),
      fun _ => rfl⟩
  | connected url kind =>
    rw [on_modify]
    exact ⟨rfl, rfl, List.Subset.refl _, .refl r, fun hK => by cases kind.symm.trans (hK url)⟩

/-! ## Stores -/

open Act (IsModest)

variable {dump : FilePath}

theorem Act.IsModest.relaying {K : Call → Bool} {α : Type} {t : Act α}
    {counts : ServiceFault → Bool} {report : ServiceFault → Failure} (h : t.IsModest K dump) :
    (t.relaying counts report).IsModest K dump := by
  refine .bind (.attempt h) fun answer => ?_
  rcases answer with f | a
  · cases f with
    | service f => exact .ite (.fail _) (.fail _)
    | _ => exact .fail _
  · exact .pure a

theorem Act.IsModest.guarded {K : Call → Bool} {α : Type} {t : Act α} (h : t.IsModest K dump)
    (backend : BackendKind) (action : StorageAction) :
    (guarded backend action t).IsModest K dump := by
  rw [guarded_eq_relaying]
  exact h.relaying

/-- An object stored under `key` at the time of the clock. -/
theorem isModest_storeNow {K : Call → Bool} (key : String) (content : ByteArray) :
    IsModest K dump (do
      let now ← currentTime
      changeWorld fun w => w.store key content now) :=
  .bind .currentTime fun now => .change (.store key content now)

namespace S3

variable (bucket key id : String)

theorem isModest_keepPart (number : Nat) (body : ByteArray) :
    (keepPart id number body).IsModest Call.asksStore dump := by
  refine .replace (.keepPart id number body) (fun r => .pure _) fun r s h => ?_
  rw [h.partMark]

theorem isModest_sendParts (number : Nat) (bodies : List ByteArray) :
    (sendParts bucket key id number bodies).IsModest Call.asksStore dump := by
  induction bodies generalizing number with
  | nil => exact .pure _
  | cons body rest ih =>
    refine .bind (.request rfl) fun _ => .bind (isModest_keepPart id number body) fun mark => ?_
    exact .bind (ih (number + 1)) fun _ => .pure _

theorem isModest_sendAll (chunk : Int) (content : ByteArray) :
    (sendAll bucket key id chunk content).IsModest Call.asksStore dump := by
  have hsend : IsModest Call.asksStore dump (do
      let marks ← sendParts bucket key id 1 (partsOf chunk.toNat content)
      request (.completeUpload bucket key id marks)
      let now ← currentTime
      changeWorld fun w => w.store key (joined (partsOf chunk.toNat content)) now) :=
    .bind (isModest_sendParts bucket key id 1 _) fun marks => .bind (.request rfl) fun _ =>
      isModest_storeNow key (joined (partsOf chunk.toNat content))
  rw [sendAll_eq]
  exact .ite (.bind (.fail _) fun _ => hsend) hsend

theorem isModest_giveUp : (giveUp bucket key id).IsModest Call.asksStore dump := by
  refine .bind (.attempt (.request rfl)) fun answer => ?_
  rcases answer with f | _
  · cases f with
    | service f => exact .ite (.say _ _ _) (.fail _)
    | _ => exact .fail _
  · exact .pure _

theorem isModest_uploadParts (chunk : Int) (content : ByteArray) :
    (uploadParts bucket key chunk content).IsModest Call.asksStore dump := by
  refine .bind (.request rfl) fun _ => .replace .begin (fun r => ?_) fun r s h => ?_
  · refine .bind (.attempt (isModest_sendAll bucket key _ chunk content)) fun answer => ?_
    rcases answer with f | _
    · cases f with
      | service f => exact .ite (.bind (isModest_giveUp bucket key _) fun _ => .fail _) (.fail _)
      | _ => exact .fail _
    · exact .pure _
  · simp only [h.uploads]

theorem isModest_upload (content : ByteArray) :
    (upload bucket key content).IsModest Call.asksStore dump := by
  refine .guarded (.look (fun r => .ite ?_ ?_) fun r s h => by rw [h.limits]) _ _
  · exact isModest_uploadParts bucket key _ content
  · exact .bind (.request rfl) fun _ => isModest_storeNow key content

theorem isModest_readPages (beginning : String) (number : Nat) (cut : List Objects) :
    (readPages bucket beginning number cut).IsModest Call.asksStore dump := by
  induction cut generalizing number with
  | nil => exact .pure _
  | cons page rest ih =>
    exact .bind (.request rfl) fun _ => .bind (.liftM _) fun _ =>
      .bind (ih (number + 1)) fun _ => .pure _

theorem isModest_list (beginning : String) :
    (list bucket beginning).IsModest Call.asksStore dump :=
  .guarded (.look (fun _ => isModest_readPages bucket beginning 1 _) fun r s h => by
    rw [h.pageSize, h.listing]) _ _

theorem isModest_delete : (delete bucket key).IsModest Call.asksStore dump :=
  .guarded (.bind (.request rfl) fun _ => .change (.discard key)) _ _

end S3

namespace Gcs

variable (bucket key : String)

theorem isModest_upload (content : ByteArray) :
    (upload bucket key content).IsModest Call.asksStore dump :=
  .guarded (.bind (.request rfl) fun _ =>
    isModest_storeNow key content) _ _

theorem isModest_meetNext : meetNext.IsModest Call.asksStore dump := by
  refine .replace (.meet nextBlobName) (fun r => ?_) fun r s h => ?_
  · rcases (World.due nextBlobName r.world.faults).1 with _ | f
    · exact .pure _
    · exact .fail _
  · simp only [h.faults]

theorem isModest_readEntries (os : Objects) :
    (readEntries os).IsModest Call.asksStore dump := by
  induction os with
  | nil => exact .pure _
  | cons o rest ih =>
    exact .bind isModest_meetNext fun _ => .bind (.liftM _) fun _ => .bind ih fun _ => .pure _

theorem isModest_list (beginning : String) :
    (list bucket beginning).IsModest Call.asksStore dump :=
  .guarded (.bind (.request rfl) fun _ =>
    .look (fun _ => isModest_readEntries _) fun r s h => by rw [h.listing]) _ _

theorem isModest_delete : (delete bucket key).IsModest Call.asksStore dump := by
  have hremove : (remove bucket key).IsModest Call.asksStore dump :=
    .bind (.request rfl) fun _ => .look (fun _ => .ite (.change (.discard key)) (.fail _))
      fun r s h => by simp only [h.objects]
  refine .guarded (.bind (.attempt hremove) fun answer => ?_) _ _
  rcases answer with f | _
  · cases f with
    | service f => exact .ite (.say _ _ _) (.fail _)
    | _ => exact .fail _
  · exact .pure _

end Gcs

namespace Store

variable (s : Store)

theorem isModest_upload (key : String) (content : ByteArray) :
    (s.upload key content).IsModest Call.asksStore dump := by
  rw [upload]
  cases s.kind
  · exact S3.isModest_upload _ _ _
  · exact Gcs.isModest_upload _ _ _

theorem isModest_list (beginning : String) :
    (s.list beginning).IsModest Call.asksStore dump := by
  rw [list]
  cases s.kind
  · exact S3.isModest_list _ _
  · exact Gcs.isModest_list _ _

theorem isModest_delete (key : String) : (s.delete key).IsModest Call.asksStore dump := by
  rw [delete]
  cases s.kind
  · exact S3.isModest_delete _ _
  · exact Gcs.isModest_delete _ _

end Store

/-! ## The node -/

namespace Replication

theorem isModest_openClient (url : String) :
    (openClient url).IsModest Call.asksNode dump := by
  refine .look (fun r => ?_) fun r s h => by rw [h.checkAddress]
  split
  · exact .request rfl
  · exact .fail _

theorem isModest_connect (url : String) : (connect url).IsModest Call.asksNode dump := by
  rw [connect_eq_relaying]
  refine .look (fun r => .ite (.pure _) ?_) fun r s h => by rw [h.connected]
  exact .bind (isModest_openClient url).relaying fun _ => .connected url rfl

theorem isModest_ask {c : Call} (hc : c.asksNode = true) (report : ServiceFault → RoleError) :
    (ask c report).IsModest Call.asksNode dump := by
  rw [ask_eq_relaying]
  exact (IsModest.request hc).relaying

theorem isModest_sayRole {K : Call → Bool} (settings : RedisSettings) (role : Role) :
    (sayRole settings role).IsModest K dump := by
  cases role <;> exact .say _ _ _

theorem isModest_shouldBackup (settings : RedisSettings) :
    (shouldBackup settings).IsModest Call.asksNode dump := by
  have hrole : (askRole settings.connection).IsModest Call.asksNode dump :=
    .bind (isModest_connect _) fun _ => .bind (isModest_ask rfl _) fun _ =>
      .look (fun _ => .pure _) fun r s h => by rw [h.info]
  rw [shouldBackup]
  exact .ite (.bind hrole fun role => .bind (isModest_sayRole settings role) fun _ => .pure _)
    (.pure _)

end Replication

/-! ## Cycles -/

section Cycles

variable {K : Call → Bool}

theorem isModest_elapsedTime : elapsedTime.IsModest K dump :=
  .look (fun _ => .pure _) fun r s h => by rw [h.elapsed]

theorem isModest_recordFailure : recordFailure.IsModest K dump :=
  .bind isModest_elapsedTime fun _ => .bind (.observe _ _) fun _ => .count _

theorem Act.IsModest.counted {α : Type} {t : Act α} (h : t.IsModest K dump)
    (counts : Failure → Bool) : (counted counts t).IsModest K dump := by
  refine .bind (.attempt h) fun answer => ?_
  rcases answer with f | a
  · exact .ite (.bind isModest_recordFailure fun _ => .fail f) (.fail f)
  · exact .pure a

theorem isModest_dumpIsThere (path : FilePath) : (dumpIsThere path).IsModest K path := by
  refine .look (fun r => ?_) fun r s h => by rw [h.isThere]
  split
  · exact .pure _
  · exact .bind (.say _ _ _) fun _ => .bind isModest_recordFailure fun _ => .fail _

theorem isModest_readDump (path : FilePath) : (readDump path).IsModest K path := by
  refine .look (fun r => ?_) fun r s h => by simp only [h.stat, h.read]
  dsimp only
  split
  · exact .bind (.say _ _ _) fun _ => .fail _
  · refine .bind (.say _ _ _) fun _ => ?_
    split
    · exact .pure _
    · exact .bind (.say _ _ _) fun _ => .fail _

theorem isModest_keyOf (c : Config) (changed : FileTime) : (keyOf c changed).IsModest K dump := by
  rw [keyOf]
  split
  · exact .fail _
  · split
    · exact .pure _
    · exact .fail _

variable (x : Executor)

theorem isModest_uploadDump : (uploadDump x).IsModest Call.asksStore x.config.dumpPath := by
  refine .bind (isModest_readDump _) fun dump => .bind (isModest_keyOf _ _) fun key => ?_
  refine .bind (.say _ _ _) fun _ => ?_
  refine .bind (.attempt (x.store.isModest_upload key _)) fun answer => ?_
  rcases answer with f | _
  · cases f with
    | storage e => exact .bind (.count _) fun _ => .bind (.say _ _ _) fun _ => .fail _
    | _ => exact .fail _
  · refine .bind (.count _) fun _ => .bind (.observe _ _) fun _ => ?_
    refine .look (fun r => ?_) fun r s h => by rw [h.now]
    refine .bind (.tally fun m => m.setGauge (r.world.now.toFloat?.getD m.lastBackup)) fun _ => ?_
    exact .bind (.say _ _ _) fun _ => .pure _

theorem isModest_deleteOne (s : Store) (key : String) :
    (deleteOne s key).IsModest Call.asksStore dump := by
  refine .bind (.say _ _ _) fun _ => .bind (.count _) fun _ => ?_
  refine .bind (.attempt (s.isModest_delete key)) fun answer => ?_
  rcases answer with f | _
  · cases f with
    | storage e => exact .bind (.say _ _ _) fun _ => .bind (.count _) fun _ => .pure _
    | _ => exact .fail _
  · exact .bind (.count _) fun _ => .pure _

theorem isModest_deleteAll (s : Store) (records : List Record) :
    (deleteAll s records).IsModest Call.asksStore dump := by
  induction records with
  | nil => exact .pure _
  | cons a rest ih =>
    exact .bind (isModest_deleteOne s a.key) fun _ => .bind ih fun _ => .pure _

theorem isModest_cleanup (s : Store) (policy : RetentionSettings) (beginning : String) :
    (cleanup s policy beginning).IsModest Call.asksStore dump := by
  have hplan : (partitionNow s policy beginning).IsModest Call.asksStore dump :=
    .bind (s.isModest_list beginning) fun _ => .bind .currentTime fun _ => .liftM _
  refine .bind (.count _) fun _ => .bind hplan fun plan => .bind (.say _ _ _) fun _ => ?_
  refine .bind (isModest_deleteAll s plan.toDelete) fun deleted => ?_
  exact .ite (.bind (.say _ _ _) fun _ => .pure _) (.pure _)

theorem isModest_enforceRetention : (enforceRetention x).IsModest Call.asksStore dump := by
  refine .bind (.attempt (isModest_cleanup _ _ _)) fun answer => ?_
  rcases answer with f | _
  · cases f with
    | storage e => exact .say _ _ _
    | _ => exact .fail _
  · exact .pure _

/-- What a cycle of `x` goes on with once it is decided whether the node is backed up. -/
def proceed (x : Executor) (selected : Bool) : Act (Option String) := do
  if !selected then
    say .info .cycle "Skipping backup based on Redis role configuration"
    return none
  if !(← dumpIsThere x.config.dumpPath) then
    say .warning .cycle ("Dump file does not exist: " ++ x.config.dumpPath.toString)
    return none
  let key ← counted Failure.isUpload (uploadDump x)
  observe .durations (← elapsedTime)
  count .successful
  enforceRetention x
  return some key

/-- **A cycle decides first, and then goes on** with `proceed`. -/
theorem runCycle_eq_proceed :
    runCycle x = (do
      count .attempted
      let selected ← counted Failure.isRole (Replication.shouldBackup x.config.redis)
      proceed x selected) := rfl

/-- **Behind its decision a cycle asks the store only**, by `Call.asksStore`. -/
theorem isModest_proceed (selected : Bool) :
    (proceed x selected).IsModest Call.asksStore x.config.dumpPath := by
  refine .ite (.bind (.say _ _ _) fun _ => .pure _) ?_
  refine .bind (isModest_dumpIsThere _) fun found => ?_
  refine .ite (.bind (.say _ _ _) fun _ => .pure _) ?_
  refine .bind ((isModest_uploadDump x).counted _) fun key => .bind isModest_elapsedTime fun _ => ?_
  refine .bind (.observe _ _) fun _ => .bind (.count _) fun _ => ?_
  exact .bind (isModest_enforceRetention x) fun _ => .pure _

/-- **A cycle is modest**: it makes the calls of `Call.isCycles`, and looks at the dump only. -/
theorem isModest_runCycle : (runCycle x).IsModest Call.isCycles x.config.dumpPath := by
  rw [runCycle_eq_proceed]
  refine .bind (.count _) fun _ => .bind ?_ fun selected => ?_
  · exact (Replication.isModest_shouldBackup _).mono (fun _ => Call.isCycles_of_asksNode)
      |>.counted _
  · exact (isModest_proceed x selected).mono fun _ => Call.isCycles_of_asksStore

end Cycles

end DumpKeeper
