import DumpKeeper.Proofs.Calls
import DumpKeeper.Proofs.Storage
import DumpKeeper.Replication

/-!
# Faults that are counted on

Every part of the program counts on certain faults of the calls that it makes.  As long as no other
faults are planned, each operation of a store can fail in a few ways only, which are told here.

* `Call.expects`, `World.Expects` — the faults that are counted on, and a world that has no others.
* `World.Follows`, `Run.Outward` — what calls leave as it is about a world, and about a run.
* `Act.Weathers w fails t` says that in worlds that follow `w` the act `t` changes nothing but the
  world and the journal, and fails only with what `fails` permits.  `Act.Weathers.bind` and its
  companions put such acts together.
* `Store.weathers_upload`, `Store.weathers_list`, `Store.weathers_delete` — how the operations of a
  store can fail.
-/

set_option autoImplicit false

namespace DumpKeeper

/-! ## Expected faults -/

/-- The faults that are counted on when a call is made in a cycle. -/
def Call.expects : Call → ServiceFault → Bool
  | .putObject .., f | .beginUpload .., f | .uploadPart .., f | .completeUpload .., f
  | .abortUpload .., f | .deleteObject .., f | .listPage .., f => f.isOf .s3
  | .uploadBlob .., f | .deleteBlob .., f | .listBlobs .., f => f.isOf .gcs
  | .openRedis .., f => Replication.refusesClient f
  | .askReplication, f | .ping, f => f.isRedis
  | _, _ => true

/-- All faults that are planned in the world `w` are counted on. -/
structure World.Expects (w : World) : Prop where
  /-- By those who make the calls. -/
  calls : ∀ (c : Call) f, (c.name, some f) ∈ w.faults → c.expects f = true
  /-- And while a listing is read. -/
  entries : ∀ f, (nextBlobName, some f) ∈ w.faults → f.isOf .gcs = true

/-- Between `w` and `v` time stands still, no file is touched, and no faults are planned. -/
structure World.Follows (w v : World) : Prop where
  /-- Faults may only be used up. -/
  faults : v.faults ⊆ w.faults
  /-- The clock has not moved. -/
  now : v.now = w.now
  /-- The time that is measured is the same. -/
  elapsed : v.elapsed = w.elapsed
  /-- The parts of uploads are as large. -/
  limits : v.limits = w.limits
  /-- No file has changed. -/
  files : v.files = w.files

/-- Between `r` and `s` nothing has changed but the world and the journal. -/
def Run.Outward (r s : Run) : Prop := s = { r with world := s.world, journal := s.journal }

namespace World

variable {w v : World}

theorem Follows.refl (w : World) : w.Follows w := ⟨List.Subset.refl _, rfl, rfl, rfl, rfl⟩

theorem expects_of_calm (h : w.faults = []) : w.Expects := by
  refine ⟨fun c f hf => ?_, fun f hf => ?_⟩
  · rw [h] at hf
    exact absurd hf List.not_mem_nil
  · rw [h] at hf
    exact absurd hf List.not_mem_nil

/-- A fault that `backend` counts on was planned in `w`, and `f` is that fault. -/
def Meets (w : World) (backend : BackendKind) (f : Failure) : Prop :=
  w.faults ≠ [] ∧ ∃ g, f = .service g ∧ g.isOf backend = true

/-- A fault was planned in `w`, and `f` is how a store has reported it. -/
def Bars (w : World) (f : Failure) : Prop :=
  w.faults ≠ [] ∧ ∃ e, f = .storage e

/-- The clock of `w` shows no point in time, and `f` is that failure. -/
def Mistimes (w : World) (f : Failure) : Prop :=
  ∃ e, DateTime.ofReading w.now = .error e ∧ f = .time e

end World

namespace Run

variable {r s t : Run}

theorem Outward.refl (r : Run) : r.Outward r := rfl

theorem Outward.trans (h : r.Outward s) (h' : s.Outward t) : r.Outward t := by
  rw [Outward] at h' ⊢
  rw [h', h]

theorem Outward.metrics (h : r.Outward s) : s.metrics = r.metrics := by rw [h]

theorem Outward.connected (h : r.Outward s) : s.connected = r.connected := by rw [h]

end Run

/-! ## Acts that fail as expected -/

namespace Act

variable {α β : Type} {w : World} {fails fails' : Failure → Prop}

/-- In worlds that follow `w`, the act changes nothing but the world and the journal, the world that
it leaves follows `w`, too, and it fails only in some ways. -/
def Weathers (w : World) (fails : Failure → Prop) (t : Act α) : Prop :=
  ∀ r : Run, w.Follows r.world →
    t.Ends r (fun _ s => r.Outward s ∧ w.Follows s.world)
      fun f s => (r.Outward s ∧ w.Follows s.world) ∧ fails f

theorem Weathers.mono {t : Act α} (h : t.Weathers w fails) (hf : ∀ f, fails f → fails' f) :
    t.Weathers w fails' := fun r hr =>
  (h r hr).mono (fun _ _ hs => hs) fun f _ hs => ⟨hs.1, hf f hs.2⟩

theorem Weathers.pure (a : α) : Act.Weathers w fails (pure a) := fun r hr =>
  Ends.pure ⟨Run.Outward.refl r, hr⟩

theorem Weathers.fail {f : Failure} (h : fails f) : Act.Weathers w fails (fail f : Act α) :=
  fun r hr => Ends.fail ⟨⟨Run.Outward.refl r, hr⟩, h⟩

theorem Weathers.bind {t : Act α} {f : α → Act β} (h : t.Weathers w fails)
    (hf : ∀ a, (f a).Weathers w fails) : Act.Weathers w fails (t >>= f) := fun r hr =>
  (h r hr).bind fun a s hs => (hf a s hs.2).mono (fun _ _ hu => ⟨hs.1.trans hu.1, hu.2⟩)
    fun _ _ hu => ⟨⟨hs.1.trans hu.1.1, hu.1.2⟩, hu.2⟩

/-- The act `t`, whose failures are handed over to `f`. -/
theorem Weathers.attempt {t : Act α} {f : Except Failure α → Act β} (h : t.Weathers w fails)
    (hok : ∀ a, (f (.ok a)).Weathers w fails')
    (herr : ∀ e, fails e → (f (.error e)).Weathers w fails') :
    Act.Weathers w fails' (attempt t >>= f) := fun r hr =>
  (h r hr).attempt
    (fun a s hs => (hok a s hs.2).mono (fun _ _ hu => ⟨hs.1.trans hu.1, hu.2⟩)
      fun _ _ hu => ⟨⟨hs.1.trans hu.1.1, hu.1.2⟩, hu.2⟩)
    fun e s hs => (herr e hs.2 s hs.1.2).mono (fun _ _ hu => ⟨hs.1.1.trans hu.1, hu.2⟩)
      fun _ _ hu => ⟨⟨hs.1.1.trans hu.1.1, hu.1.2⟩, hu.2⟩

theorem Weathers.get_bind {f : Run → Act β}
    (h : ∀ r, w.Follows r.world → (f r).Weathers w fails) :
    Act.Weathers w fails (get >>= f) := fun r hr => Ends.get_bind (h r hr r hr)

theorem Weathers.ite {c : Prop} [Decidable c] {t u : Act α} (ht : c → t.Weathers w fails)
    (hu : ¬c → u.Weathers w fails) : Act.Weathers w fails (if c then t else u) := by
  split
  · rename_i hc
    exact ht hc
  · rename_i hc
    exact hu hc

theorem weathers_liftM {e : Except Failure α} (h : ∀ f, e = .error f → fails f) :
    Act.Weathers w fails (liftM e) := fun r hr =>
  (liftM_ends e r).mono (fun _ _ hs => by rw [hs.1]; exact ⟨Run.Outward.refl r, hr⟩)
    fun f _ hs => ⟨by rw [hs.1]; exact ⟨Run.Outward.refl r, hr⟩, h f hs.2⟩

theorem weathers_say (level : Level) (source : Source) (message : String) :
    (say level source message).Weathers w fails := fun r hr => by
  refine ends_of_ok (on_modify _ r) ?_
  split
  · exact ⟨rfl, hr⟩
  · exact ⟨rfl, hr⟩

theorem weathers_changeWorld {g : World → World} (h : ∀ v, w.Follows v → w.Follows (g v)) :
    (changeWorld g).Weathers w fails := fun r hr =>
  ends_of_ok (on_changeWorld g r) ⟨rfl, h r.world hr⟩

theorem weathers_currentTime : currentTime.Weathers w w.Mistimes := fun r hr =>
  (currentTime_ends r).mono (fun _ _ hs => by rw [hs.1]; exact ⟨Run.Outward.refl r, hr⟩) <| by
    rintro f s ⟨rfl, e, he, rfl⟩
    exact ⟨⟨Run.Outward.refl s, hr⟩, e, hr.now ▸ he, rfl⟩

/-- The call `c` fails only with a fault that is counted on. -/
theorem weathers_request (hw : w.Expects) (c : Call) :
    (request c).Weathers w fun f =>
      w.faults ≠ [] ∧ ∃ g, f = .service g ∧ c.expects g = true := by
  intro r hr
  have hs : w.Follows (r.world.ask c).2 :=
    ⟨List.Subset.trans (World.ask_snd_subset r.world c) hr.faults, hr.now, hr.elapsed, hr.limits,
      hr.files⟩
  refine ⟨fun ht => ?_, fun ht => ?_⟩
  · rw [on_request, Prod.mk.injEq] at ht
    obtain ⟨-, rfl⟩ := ht
    exact ⟨rfl, hs⟩
  · rw [on_request, Prod.mk.injEq] at ht
    obtain ⟨hf, rfl⟩ := ht
    refine ⟨⟨rfl, hs⟩, ?_⟩
    rcases ha : (r.world.ask c).1 with g | u
    · rw [ha] at hf
      have hmem := hr.faults (World.mem_faults_of_ask ha)
      exact ⟨List.ne_nil_of_mem hmem, g, (Except.error.inj hf).symm, hw.calls c g hmem⟩
    · rw [ha] at hf
      cases hf

end Act

section Stores

variable {w : World}

theorem Act.Weathers.guarded {α : Type} {fails : Failure → Prop} {t : Act α}
    (h : t.Weathers w fails) (backend : BackendKind) (action : StorageAction) :
    (guarded backend action t).Weathers w fun f =>
      ∃ g, fails g ∧ f = g.reported backend action := fun r hr =>
  guarded_ends backend action (h r hr) fun f _ hs => ⟨hs.1, f, hs.2, rfl⟩

/-- A fault that `backend` counts on is reported. -/
theorem World.Meets.bars {backend : BackendKind} {f : Failure} (h : w.Meets backend f)
    (action : StorageAction) : w.Bars (f.reported backend action) := by
  obtain ⟨hw, g, rfl, hg⟩ := h
  exact ⟨hw, _, if_pos hg⟩

/-- The `backend` has nothing to report about the clock. -/
theorem World.Mistimes.reported {f : Failure} (h : w.Mistimes f) (backend : BackendKind)
    (action : StorageAction) : w.Mistimes (f.reported backend action) := by
  obtain ⟨e, he, rfl⟩ := h
  exact ⟨e, he, rfl⟩

/-- What is stored under `key`, discarded or kept changes nothing about time and faults. -/
theorem weathers_storeNow {fails : Failure → Prop} (key : String) (got : World → ByteArray)
    (h : ∀ f, w.Mistimes f → fails f) :
    Act.Weathers w fails (do
      let now ← currentTime
      changeWorld fun v => v.store key (got v) now) :=
  (Act.weathers_currentTime.mono h).bind fun _ =>
    Act.weathers_changeWorld fun _ hv => ⟨hv.faults, hv.now, hv.elapsed, hv.limits, hv.files⟩

/-- An upload with one call, `c`. -/
theorem weathers_request_storeNow (hw : w.Expects) (backend : BackendKind) (c : Call) (key : String)
    (content : ByteArray) (hc : ∀ g, c.expects g = true → g.isOf backend = true) :
    Act.Weathers w (fun f => w.Meets backend f ∨ w.Mistimes f) (do
      request c
      let now ← currentTime
      changeWorld fun v => v.store key content now) := by
  refine ((Act.weathers_request hw c).mono ?_).bind fun _ => weathers_storeNow key _ fun _ => .inr
  rintro f ⟨hf, g, rfl, hg⟩
  exact .inl ⟨hf, g, rfl, hc g hg⟩

namespace S3

variable (bucket key id : String)

theorem weathers_keepPart {fails : Failure → Prop} (number : Nat) (body : ByteArray) :
    (keepPart id number body).Weathers w fails := by
  refine Act.Weathers.get_bind fun r hr => ?_
  refine Act.Weathers.bind
    (Act.weathers_changeWorld (g := fun _ => (r.world.keepPart id number body).2)
      fun _ _ => ⟨hr.faults, hr.now, hr.elapsed, hr.limits, hr.files⟩) fun _ => ?_
  exact Act.Weathers.pure _

theorem weathers_sendParts (hw : w.Expects) (number : Nat) (bodies : List ByteArray) :
    (sendParts bucket key id number bodies).Weathers w (w.Meets .s3) := by
  induction bodies generalizing number with
  | nil => exact Act.Weathers.pure _
  | cons body rest ih =>
    refine Act.Weathers.bind (Act.weathers_request hw _) fun _ => ?_
    refine Act.Weathers.bind (weathers_keepPart id number body) fun mark => ?_
    exact (ih (number + 1)).bind fun _ => Act.Weathers.pure _

theorem weathers_sendAll (hw : w.Expects) {chunk : Int} (h : chunk ≠ 0) (content : ByteArray) :
    (sendAll bucket key id chunk content).Weathers w fun f => w.Meets .s3 f ∨ w.Mistimes f := by
  rw [sendAll_eq]
  simp only [if_neg h]
  refine ((weathers_sendParts bucket key id hw 1 _).mono fun _ => .inl).bind fun marks => ?_
  refine Act.Weathers.bind ((Act.weathers_request hw _).mono fun _ => .inl) fun _ => ?_
  exact weathers_storeNow key _ fun _ => .inr

/-- `giveUp` does not fail. -/
theorem weathers_giveUp (hw : w.Expects) {fails : Failure → Prop} :
    (giveUp bucket key id).Weathers w fails := by
  refine (Act.weathers_request hw _).attempt (fun _ => Act.Weathers.pure _) ?_
  rintro _ ⟨-, g, rfl, hg⟩
  exact Act.Weathers.ite (fun _ => Act.weathers_say _ _ _) fun hn => absurd hg hn

theorem weathers_uploadParts (hw : w.Expects) {chunk : Int} (h : chunk ≠ 0)
    (content : ByteArray) :
    (uploadParts bucket key chunk content).Weathers w
      fun f => w.Meets .s3 f ∨ w.Mistimes f := by
  refine Act.Weathers.bind ((Act.weathers_request hw _).mono fun _ => .inl) fun _ => ?_
  refine Act.Weathers.get_bind fun r hr => ?_
  refine Act.Weathers.bind (Act.weathers_changeWorld (g := fun _ => r.world.begin.2)
    fun _ _ => ⟨hr.faults, hr.now, hr.elapsed, hr.limits, hr.files⟩) fun _ => ?_
  refine (weathers_sendAll bucket key _ hw h content).attempt (fun _ => Act.Weathers.pure _) ?_
  intro f hf
  cases f with
  | service f =>
    exact Act.Weathers.ite
      (fun _ => (weathers_giveUp bucket key _ hw).bind fun _ => Act.Weathers.fail hf)
      fun _ => Act.Weathers.fail hf
  | _ => exact Act.Weathers.fail hf

theorem weathers_upload (hw : w.Expects) (h : w.limits.chunk ≠ 0) (content : ByteArray) :
    (upload bucket key content).Weathers w fun f => w.Bars f ∨ w.Mistimes f := by
  have hinner : Act.Weathers w (fun f => w.Meets .s3 f ∨ w.Mistimes f) (do
      let limits := (← get).world.limits
      if limits.threshold < content.size then uploadParts bucket key limits.chunk content
      else uploadWhole bucket key content) := by
    refine Act.Weathers.get_bind fun r hr => Act.Weathers.ite (fun _ => ?_) fun _ => ?_
    · exact weathers_uploadParts bucket key hw (hr.limits ▸ h) content
    · exact weathers_request_storeNow hw .s3 _ key content fun _ hg => hg
  refine (hinner.guarded .s3 (.upload key)).mono ?_
  rintro _ ⟨g, hg | hg, rfl⟩
  · exact .inl (hg.bars _)
  · exact .inr (hg.reported _ _)

theorem weathers_readPages (hw : w.Expects) (number : Nat) (cut : List Objects) :
    (readPages bucket key number cut).Weathers w
      fun f => w.Meets .s3 f ∨ f = .time .beyondDates := by
  induction cut generalizing number with
  | nil => exact Act.Weathers.pure _
  | cons page rest ih =>
    refine Act.Weathers.bind ((Act.weathers_request hw _).mono fun _ => .inl) fun _ => ?_
    refine (Act.weathers_liftM fun _ hf => .inr (recordsOf_error hf)).bind fun _ => ?_
    exact (ih (number + 1)).bind fun _ => Act.Weathers.pure _

theorem weathers_list (hw : w.Expects) (beginning : String) :
    (list bucket beginning).Weathers w fun f => w.Bars f ∨ f = .time .beyondDates := by
  refine (Act.Weathers.guarded (Act.Weathers.get_bind fun _ _ =>
    weathers_readPages bucket beginning hw 1 _) .s3 (.list beginning)).mono ?_
  rintro _ ⟨g, hg | rfl, rfl⟩
  · exact .inl (hg.bars _)
  · exact .inr rfl

theorem weathers_delete (hw : w.Expects) : (delete bucket key).Weathers w w.Bars := by
  have hinner : Act.Weathers w (w.Meets .s3) (do
      request (.deleteObject bucket key)
      changeWorld fun v => v.discard key) :=
    Act.Weathers.bind (Act.weathers_request hw _) fun _ =>
      Act.weathers_changeWorld fun _ hv => ⟨hv.faults, hv.now, hv.elapsed, hv.limits, hv.files⟩
  refine (hinner.guarded .s3 (.delete key)).mono ?_
  rintro _ ⟨g, hg, rfl⟩
  exact hg.bars _

end S3

namespace Gcs

variable (bucket key : String)

theorem weathers_upload (hw : w.Expects) (content : ByteArray) :
    (upload bucket key content).Weathers w fun f => w.Bars f ∨ w.Mistimes f := by
  have hinner := weathers_request_storeNow hw .gcs (.uploadBlob bucket key content) key content
    fun _ hg => hg
  refine (hinner.guarded .gcs (.upload key)).mono ?_
  rintro _ ⟨g, hg | hg, rfl⟩
  · exact .inl (hg.bars _)
  · exact .inr (hg.reported _ _)

theorem weathers_meetNext (hw : w.Expects) : meetNext.Weathers w (w.Meets .gcs) := by
  refine Act.Weathers.get_bind fun r hr => ?_
  have hs : w.Follows (r.world.meet nextBlobName).2 :=
    ⟨List.Subset.trans (World.meet_snd_subset r.world _) hr.faults, hr.now, hr.elapsed, hr.limits,
      hr.files⟩
  rcases h : r.world.meet nextBlobName with ⟨g | _, v⟩
  · rw [h] at hs
    refine (Act.weathers_changeWorld fun _ _ => hs).bind fun _ => Act.Weathers.fail ?_
    have hmem := hr.faults (World.mem_faults_of_meet (congrArg Prod.fst h))
    exact ⟨List.ne_nil_of_mem hmem, g, rfl, hw.entries g hmem⟩
  · rw [h] at hs
    exact (Act.weathers_changeWorld fun _ _ => hs).bind fun _ => Act.Weathers.pure _

theorem weathers_readEntries (hw : w.Expects) (os : Objects) :
    (readEntries os).Weathers w fun f => w.Meets .gcs f ∨ f = .time .beyondDates := by
  induction os with
  | nil => exact Act.Weathers.pure _
  | cons o rest ih =>
    refine ((weathers_meetNext hw).mono fun _ => .inl).bind fun _ => ?_
    refine (Act.weathers_liftM fun _ hf => .inr (recordOf_error hf)).bind fun _ => ?_
    exact ih.bind fun _ => Act.Weathers.pure _

theorem weathers_list (hw : w.Expects) (beginning : String) :
    (list bucket beginning).Weathers w fun f => w.Bars f ∨ f = .time .beyondDates := by
  have hinner : Act.Weathers w (fun f => w.Meets .gcs f ∨ f = .time .beyondDates) (do
      request (.listBlobs bucket beginning)
      readEntries ((← get).world.listing beginning)) :=
    Act.Weathers.bind ((Act.weathers_request hw _).mono fun _ => .inl) fun _ =>
      Act.Weathers.get_bind fun _ _ => weathers_readEntries hw _
  refine (hinner.guarded .gcs (.list beginning)).mono ?_
  rintro _ ⟨g, hg | rfl, rfl⟩
  · exact .inl (hg.bars _)
  · exact .inr rfl

/-- That there is no such object is a failure of `remove` without any fault. -/
theorem weathers_remove (hw : w.Expects) :
    (remove bucket key).Weathers w fun f =>
      w.Meets .gcs f ∨ f = .service (.status ServiceFault.notFoundStatus key) := by
  refine Act.Weathers.bind ((Act.weathers_request hw _).mono fun _ => .inl) fun _ => ?_
  refine Act.Weathers.get_bind fun _ _ => Act.Weathers.ite (fun _ => ?_) fun _ => ?_
  · exact Act.weathers_changeWorld fun _ hv => ⟨hv.faults, hv.now, hv.elapsed, hv.limits, hv.files⟩
  · exact Act.Weathers.fail (.inr rfl)

theorem weathers_delete (hw : w.Expects) : (delete bucket key).Weathers w w.Bars := by
  refine (Act.Weathers.guarded (?_ : Act.Weathers w (w.Meets .gcs) _) .gcs (.delete key)).mono ?_
  · refine (weathers_remove bucket key hw).attempt (fun _ => Act.Weathers.pure _) ?_
    rintro _ (⟨hf, g, rfl, hg⟩ | rfl)
    · exact Act.Weathers.ite (fun _ => Act.weathers_say _ _ _)
        fun _ => Act.Weathers.fail ⟨hf, g, rfl, hg⟩
    · exact Act.weathers_say _ _ _
  · rintro _ ⟨g, hg, rfl⟩
    exact hg.bars _

end Gcs

namespace Store

variable (s : Store)

/-- **An upload fails with a reported fault of the store**, by `World.Bars`, or because of the
clock. -/
theorem weathers_upload (hw : w.Expects) (h : w.limits.chunk ≠ 0) (key : String)
    (content : ByteArray) :
    (s.upload key content).Weathers w fun f => w.Bars f ∨ w.Mistimes f := by
  rw [Store.upload]
  cases s.kind with
  | s3 => exact S3.weathers_upload s.bucket key hw h content
  | gcs => exact Gcs.weathers_upload s.bucket key hw content

/-- **A listing fails with a reported fault of the store**, by `World.Bars`, or because of a time
that is none. -/
theorem weathers_list (hw : w.Expects) (beginning : String) :
    (s.list beginning).Weathers w fun f => w.Bars f ∨ f = .time .beyondDates := by
  rw [Store.list]
  cases s.kind with
  | s3 => exact S3.weathers_list s.bucket hw beginning
  | gcs => exact Gcs.weathers_list s.bucket hw beginning

/-- **A deletion fails with a reported fault of the store**, by `World.Bars`. -/
theorem weathers_delete (hw : w.Expects) (key : String) :
    (s.delete key).Weathers w w.Bars := by
  rw [Store.delete]
  cases s.kind with
  | s3 => exact S3.weathers_delete s.bucket key hw
  | gcs => exact Gcs.weathers_delete s.bucket key hw

end Store

end Stores

end DumpKeeper
