import DumpKeeper.Proofs.Calls
import DumpKeeper.Proofs.Storage

/-!
# How a dump gets into an S3 store

Whether a dump is sent with one call or in parts, the calls of an upload are fixed before the first
one is made.  The upload goes through them until one fails, and reports the fault of that one.  If
the upload had begun by then, it is given up, which is tried once and whose own failure goes
unreported.

* `IsCut`, `isCut_partsOf` — a content cut into parts of one size, of which only the last may be
  shorter.
* `S3.partedCalls`, `S3.plannedCalls` — the calls of an upload in parts, and of any upload.
* `S3.GivesUp` — the calls of an upload up to the first that fails, and what becomes of one that had
  begun.
* `S3.Stored`, `S3.Abandoned` — what an upload leaves behind that has gone well, and one that has
  not.
* `S3.upload_all_or_nothing` — every upload ends in one of these ways, whichever calls fail.
-/

set_option autoImplicit false

namespace DumpKeeper

/-! ## Parts -/

/-- The `content` is cut into the parts `bodies`, of which only the last one may have less than
`size` bytes, but at least one. -/
structure IsCut (size : Nat) (content : ByteArray) (bodies : List ByteArray) : Prop where
  /-- The parts make up the content. -/
  whole : joined bodies = content
  /-- All parts but the last have the size. -/
  full : ∀ body ∈ bodies.dropLast, body.size = size
  /-- The last part has at most the size. -/
  last : ∀ body ∈ bodies.getLast?, 1 ≤ body.size ∧ body.size ≤ size

theorem partsFrom_ne_nil {size : Nat} {content : ByteArray} {place : Nat} (hs : 0 < size)
    (h : place < content.size) : partsFrom size content place ≠ [] := by
  rw [partsFrom, dif_pos ⟨hs, h⟩]
  exact List.cons_ne_nil _ _

theorem size_extract_part (size : Nat) {content : ByteArray} {place : Nat}
    (h : place < content.size) :
    (content.extract place (place + size)).size = min size (content.size - place) := by
  rw [ByteArray.size_extract]
  omega

/-- Parts from a `place` on, by `partsFrom`: those before the last are full, and the last one is not
empty. -/
theorem size_of_mem_partsFrom (size : Nat) (content : ByteArray) (place : Nat) :
    (∀ body ∈ (partsFrom size content place).dropLast, body.size = size) ∧
      ∀ body ∈ (partsFrom size content place).getLast?, 1 ≤ body.size ∧ body.size ≤ size := by
  fun_induction partsFrom size content place with
  | case1 place hp ih =>
    obtain ⟨hpos, hplace⟩ := hp
    have hsize := size_extract_part size hplace
    -- a part is the last one just when it reaches the end
    by_cases hmore : place + size < content.size
    · have hne := partsFrom_ne_nil hpos hmore
      rw [List.dropLast_cons_of_ne_nil hne, List.getLast?_cons_of_ne_nil hne]
      refine ⟨fun body hbody => ?_, ih.2⟩
      rcases List.mem_cons.1 hbody with rfl | hbody
      · omega
      · exact ih.1 body hbody
    · have hnil : partsFrom size content (place + size) = [] := by
        rw [partsFrom, dif_neg fun h => hmore h.2]
      rw [hnil, List.getLast?_singleton]
      refine ⟨fun body hbody => absurd hbody List.not_mem_nil, fun body hbody => ?_⟩
      obtain rfl := Option.some.inj hbody
      omega
  | case2 place hp =>
    exact ⟨fun body hbody => absurd hbody List.not_mem_nil, fun body hbody => by cases hbody⟩

/-- **The parts of `partsOf` are a cut of the `content`.** -/
theorem isCut_partsOf {size : Nat} (h : 0 < size) (content : ByteArray) :
    IsCut size content (partsOf size content) :=
  ⟨joined_partsOf size content h, (size_of_mem_partsFrom size content 0).1,
    (size_of_mem_partsFrom size content 0).2⟩

/-! ## Calls -/

/-- The calls that uploads into an S3 store make. -/
def Call.isOfUpload : Call → Bool
  | .putObject .. => true
  | .beginUpload .. => true
  | .uploadPart .. => true
  | .completeUpload .. => true
  | .abortUpload .. => true
  | _ => false

namespace S3

/-- The calls that send parts, numbered from `number` on. -/
def partCalls (bucket key id : String) (number : Nat) (bodies : List ByteArray) : List Call :=
  (bodies.zipIdx number).map fun p => .uploadPart bucket key p.2 id p.1

theorem partMarks_congr {v w : World} (h : v.partMark = w.partMark) (id : String) (number : Nat)
    (bodies : List ByteArray) : partMarks v id number bodies = partMarks w id number bodies := by
  rw [partMarks, partMarks, h]

/-- The calls of an upload in parts to the store of `w`: it is begun, the parts are sent, and it is
completed with the marks that the parts were answered with. -/
def partedCalls (w : World) (bucket key id : String) (bodies : List ByteArray) : List Call :=
  .beginUpload bucket key ::
    (partCalls bucket key id 1 bodies ++ [.completeUpload bucket key id (partMarks w id 1 bodies)])

/-- The calls of an upload in `w`, as long as none of them fails. -/
def plannedCalls (bucket key : String) (content : ByteArray) (w : World) : List Call :=
  if w.limits.threshold < content.size then
    partedCalls w bucket key w.begin.1 (partsOf w.limits.chunk.toNat content)
  else [.putObject bucket key content]

theorem isOfUpload_of_mem_partedCalls {w : World} {bucket key id : String}
    {bodies : List ByteArray} {c : Call} (h : c ∈ partedCalls w bucket key id bodies) :
    c.isOfUpload = true := by
  rcases List.mem_cons.1 h with rfl | h
  · rfl
  rcases List.mem_append.1 h with h | h
  · obtain ⟨p, -, rfl⟩ := List.mem_map.1 h
    rfl
  · obtain rfl := List.mem_singleton.1 h
    rfl

theorem isOfUpload_of_mem_plannedCalls {bucket key : String} {content : ByteArray} {w : World}
    {c : Call} (h : c ∈ plannedCalls bucket key content w) : c.isOfUpload = true := by
  rw [plannedCalls] at h
  split at h
  · exact isOfUpload_of_mem_partedCalls h
  · obtain rfl := List.mem_singleton.1 h
    rfl

/-! ## The course of an upload -/

/-- Of the planned calls of an upload, some were made between `r` and `s`, and the last of these was
the first one to fail, with `cause`.  An upload that had begun by then was given up, once, and
otherwise none was. -/
def GivesUp (bucket key : String) (planned : List Call) (r s : Run) (cause : ServiceFault) : Prop :=
  ∃ done failed aborts, done ++ [failed] <+: planned ∧
    r.world.Passes done ∧ ((r.world.afterCalls done).ask failed).1 = .error cause ∧
    s.world.calls = r.world.calls ++ (done ++ failed :: aborts) ∧
    (.beginUpload bucket key ∈ done → aborts = [.abortUpload bucket key r.world.begin.1]) ∧
    (.beginUpload bucket key ∉ done → aborts = [])

/-- What an upload of `content` under `key`, from `r` to `s`, leaves behind that has gone well. -/
structure Stored (bucket key : String) (content : ByteArray) (r s : Run) : Prop where
  /-- The object of the key has the content. -/
  object : ∃ o, s.world.objects.get? key = some o ∧ o.content = content
  /-- Nothing is changed under other keys. -/
  others : ∀ other, other ≠ key → s.world.objects.get? other = r.world.objects.get? other
  /-- A content that is not too large was sent with one call. -/
  whole : content.size ≤ r.world.limits.threshold →
    r.Completes s [.putObject bucket key content]
  /-- A large content was sent in parts, of which there is at least one. -/
  parts : r.world.limits.threshold < content.size →
    ∃ bodies, bodies ≠ [] ∧ IsCut r.world.limits.chunk.toNat content bodies ∧
      r.Completes s (partedCalls r.world bucket key r.world.begin.1 bodies)

/-- What an upload leaves behind in which a call has failed with `cause`: nothing but calls. -/
structure Abandoned (bucket key : String) (content : ByteArray) (r s : Run) (cause : ServiceFault) :
    Prop where
  /-- No object has changed. -/
  objects : s.world.objects = r.world.objects
  /-- The upload was given up at the first call that failed. -/
  calls : GivesUp bucket key (plannedCalls bucket key content r.world) r s cause

section Course

variable {bucket key id : String} {content : ByteArray} {r s : Run} {now : DateTime}
  {planned : List Call} {cause : ServiceFault}

/-- A call `c` that failed before the upload had begun leaves nothing to be given up. -/
theorem givesUp_of_first {c : Call} (h : r.Stops s [c] cause) (hp : [c] <+: planned) :
    GivesUp bucket key planned r s cause := by
  obtain ⟨done, failed, behind, heq, hmakes, hpass, hfail⟩ := h
  obtain ⟨rfl, hrest⟩ | ⟨e, rfl, hrest⟩ := List.append_eq_cons_iff.1 heq.symm
  · obtain ⟨rfl, rfl⟩ := List.cons.inj hrest
    exact ⟨[], failed, [], hp, hpass, hfail, hmakes.noted, fun h => absurd h List.not_mem_nil,
      fun _ => rfl⟩
  · exact absurd hrest.symm (by simp)

/-- A part that is kept, by `keepPart`, makes no call, and is answered with its mark. -/
theorem performs_keepPart (id : String) (number : Nat) (body : ByteArray) (r : Run) :
    (keepPart id number body).Performs r [] fun mark => mark = r.world.partMark id number body :=
  Act.ends_of_ok (s := { r with world := (r.world.keepPart id number body).2 }) rfl
    ⟨Run.completes_nil rfl rfl rfl rfl, rfl⟩

/-- The parts that were sent, `bodies`, are answered with their marks. -/
theorem performs_sendParts (bucket key id : String) (number : Nat) (bodies : List ByteArray)
    (r : Run) :
    (sendParts bucket key id number bodies).Performs r (partCalls bucket key id number bodies)
      fun marks => marks = partMarks r.world id number bodies := by
  induction bodies generalizing number r with
  | nil => exact Act.Performs.pure rfl
  | cons body rest ih =>
    rw [sendParts]
    refine (Act.performs_request _ r).bind fun _ s hs _ => ?_
    refine (performs_keepPart id number body s).nil_bind fun mark t ht hmark => ?_
    refine (ih (number + 1) t).bind_nil fun marks u _ hmarks => Act.Performs.pure ?_
    rw [hmark, hmarks, partMarks_congr (ht.1.partMark.trans hs.1.partMark), hs.1.partMark]
    rfl

/-- The last step of every upload, to store the `content`, makes no call. -/
theorem performs_storeNow (key : String) (content : ByteArray)
    (hn : DateTime.ofReading r.world.now = .ok now) :
    Act.Performs (do
      let t ← currentTime
      changeWorld fun w => w.store key content t) r [] fun _ => True :=
  (Act.performs_currentTime hn).nil_bind fun _ _ _ _ =>
    Act.performs_changeWorld rfl rfl rfl rfl

theorem performs_sendAll (bucket key id : String) {chunk : Int} (h : 0 < chunk)
    (content : ByteArray) (hn : DateTime.ofReading r.world.now = .ok now) :
    (sendAll bucket key id chunk content).Performs r
      (partCalls bucket key id 1 (partsOf chunk.toNat content) ++
        [.completeUpload bucket key id (partMarks r.world id 1 (partsOf chunk.toNat content))])
      fun _ => True := by
  rw [sendAll_eq]
  simp only [if_neg (show ¬chunk = 0 by omega)]
  refine (performs_sendParts bucket key id 1 _ r).bind fun marks s hs hm => ?_
  obtain rfl := hm
  refine (Act.performs_request _ s).bind_nil fun _ t ht _ => ?_
  exact performs_storeNow key _ (by rw [ht.1.now, hs.1.now, hn])

/-- That an upload is given up, by `giveUp`, is one call, and no failure of its own. -/
theorem giveUp_makes (bucket key id : String)
    (hf : ∀ f, ((Call.abortUpload bucket key id).name, some f) ∈ r.world.faults →
      f.isOf .s3 = true) :
    (giveUp bucket key id).Ends r (fun _ s => r.Makes s [.abortUpload bucket key id])
      fun _ _ => False := by
  refine (Act.performs_request _ r).attempt (fun _ s hs => Act.Ends.pure hs.1.1) ?_
  rintro _ s ⟨g, rfl, hs⟩
  obtain ⟨c, hc, hg⟩ := hs.mem_faults
  obtain rfl := List.mem_singleton.1 hc
  dsimp only
  rw [if_pos (hf g hg)]
  exact (Act.isAside_say _ _ _ s).mono (fun _ _ ht => hs.makes_singleton.of_world ht)
    fun _ _ h => h

/-- **`uploadParts` makes the calls of its parts, or gives up at the first that fails.** -/
theorem uploadParts_calls (bucket key : String) {chunk : Int} (h : 0 < chunk) (content : ByteArray)
    (hn : DateTime.ofReading r.world.now = .ok now)
    (hf : ∀ c : Call, c.isOfUpload = true → ∀ f, (c.name, some f) ∈ r.world.faults →
      f.isOf .s3 = true) :
    (uploadParts bucket key chunk content).Ends r
      (fun _ s =>
        r.Completes s
          (partedCalls r.world bucket key r.world.begin.1 (partsOf chunk.toNat content)))
      fun f s => ∃ cause, f = .service cause ∧ GivesUp bucket key
        (partedCalls r.world bucket key r.world.begin.1 (partsOf chunk.toNat content))
        r s cause := by
  rw [uploadParts]
  -- the name of the upload is the one that the world has kept free for it
  have hbegin : (request (.beginUpload bucket key)).Ends r
      (fun _ s => r.Completes s [.beginUpload bucket key] ∧ s.world.uploads = r.world.uploads)
      fun f s => ∃ cause, f = .service cause ∧ r.Stops s [.beginUpload bucket key] cause :=
    ((Act.performs_request _ r).and (Act.request_ends _ r)).mono
      (fun _ _ hs => ⟨hs.1.1, hs.2.2.2⟩) fun _ _ hs => hs.1
  refine hbegin.bind_of ?_ ?_
  · rintro _ s ⟨cause, rfl, hs⟩
    exact ⟨cause, rfl, givesUp_of_first hs ⟨_, rfl⟩⟩
  rintro _ s ⟨hs, huploads⟩
  refine Act.Ends.get_bind ?_
  have hid : World.uploadName (s.world.uploads + 1) = r.world.begin.1 := by
    rw [huploads, World.begin]
  let s' : Run := { s with world := s.world.begin.2 }
  have hs' : r.Completes s' [.beginUpload bucket key] :=
    hs.trans (Run.completes_nil (s := s') rfl rfl rfl rfl)
  refine Act.Ends.bind_ok (s := s') (Act.on_changeWorld _ s) ?_
  have hsend := performs_sendAll bucket key r.world.begin.1 h content (r := s')
    (by rw [hs'.1.now, hn])
  rw [partMarks_congr hs'.1.partMark] at hsend
  rw [hid]
  refine hsend.attempt (fun _ t ht => Act.Ends.pure (hs'.trans ht.1)) ?_
  rintro _ t ⟨cause, rfl, ht⟩
  have hstops := hs'.stops ht
  obtain ⟨c, hc, hcause⟩ := hstops.mem_faults
  have hup : c.isOfUpload = true := isOfUpload_of_mem_partedCalls hc
  dsimp only
  rw [if_pos (hf c hup cause hcause)]
  obtain ⟨done, failed, behind, heq, hmakes, hpass, hfail⟩ := ht
  obtain ⟨made, hmade⟩ := hstops.makes
  refine (giveUp_makes bucket key r.world.begin.1 fun f hmem =>
    hf _ rfl f (hmade.subset hmem)).bind_of (fun _ _ hf => hf.elim) fun _ u hu => ?_
  have hsome : (.beginUpload bucket key : Call) ∈ .beginUpload bucket key :: done :=
    List.mem_cons_self
  refine Act.Ends.fail ⟨cause, rfl, .beginUpload bucket key :: done, failed, _, ⟨behind, ?_⟩,
    World.passes_append hs'.2 (hpass.congr hs'.1.faults), ?_, ?_, fun _ => rfl,
    fun hnot => absurd hsome hnot⟩
  · rw [partedCalls, heq, List.cons_append, List.cons_append, List.append_assoc]
    rfl
  · rw [← hfail]
    exact ((World.ask_congr (World.faults_afterCalls_congr hs'.1.faults done) failed).1).symm
  · rw [hu.noted, hmakes.noted, hs'.1.noted]
    simp only [List.append_assoc, List.cons_append, List.nil_append]

/-- The calls of any `upload`. -/
theorem upload_calls (bucket key : String) (content : ByteArray)
    (hn : DateTime.ofReading r.world.now = .ok now) (hchunk : 0 < r.world.limits.chunk)
    (hf : ∀ c : Call, c.isOfUpload = true → ∀ f, (c.name, some f) ∈ r.world.faults →
      f.isOf .s3 = true) :
    (upload bucket key content).Ends r
      (fun _ s => r.Completes s (plannedCalls bucket key content r.world))
      fun f s => ∃ cause, f = .storage ⟨.s3, .upload key, cause⟩ ∧
        GivesUp bucket key (plannedCalls bucket key content r.world) r s cause := by
  have hreport : ∀ (f : Failure) (s : Run), (∃ cause, f = .service cause ∧
        GivesUp bucket key (plannedCalls bucket key content r.world) r s cause) →
      ∃ cause, f.reported .s3 (.upload key) = .storage ⟨.s3, .upload key, cause⟩ ∧
        GivesUp bucket key (plannedCalls bucket key content r.world) r s cause := by
    rintro _ s ⟨cause, rfl, hs⟩
    refine ⟨cause, if_pos ?_, hs⟩
    obtain ⟨done, failed, -, ⟨behind, hplan⟩, -, hfail, -⟩ := hs
    have hmem : failed ∈ plannedCalls bucket key content r.world := by
      rw [← hplan]
      simp
    exact hf failed (isOfUpload_of_mem_plannedCalls hmem) cause
      (World.afterCalls_subset _ _ (World.mem_faults_of_ask hfail))
  refine guarded_ends .s3 (.upload key) ?_ hreport
  refine Act.Ends.get_bind ?_
  rw [plannedCalls]
  dsimp only
  split
  · exact uploadParts_calls bucket key hchunk content hn hf
  · have hwhole : (uploadWhole bucket key content).Performs r [.putObject bucket key content]
        fun _ => True :=
      (Act.performs_request _ r).bind_nil fun _ s hs _ =>
        performs_storeNow key _ (by rw [hs.1.now, hn])
    refine hwhole.mono (fun _ _ hs => hs.1) ?_
    rintro _ s ⟨cause, rfl, hs⟩
    exact ⟨cause, rfl, givesUp_of_first hs (List.prefix_refl _)⟩

/-- **An upload is all or nothing.**  Whichever of its calls fail, as long as they fail with faults
of the store: either the whole `content` is stored under `key`, or the failure reports the first
call that failed, no object has changed, and parts that were sent have been given up. -/
theorem upload_all_or_nothing (bucket key : String) (content : ByteArray) (r : Run) {now : DateTime}
    (hnow : DateTime.ofReading r.world.now = .ok now) (hthreshold : 0 ≤ r.world.limits.threshold)
    (hchunk : 1 ≤ r.world.limits.chunk)
    (hfaults : ∀ c : Call, c.isOfUpload = true → ∀ f, (c.name, some f) ∈ r.world.faults →
      f.isOf .s3 = true) :
    (upload bucket key content).Ends r (fun _ s => Stored bucket key content r s)
      fun f s => ∃ cause, f = .storage ⟨.s3, .upload key, cause⟩ ∧
        Abandoned bucket key content r s cause := by
  refine ((upload_ends bucket key content r hchunk).and
    (upload_calls bucket key content hnow hchunk hfaults)).mono ?_ ?_
  · rintro _ s ⟨⟨t, -, hleaves⟩, hcalls⟩
    rw [plannedCalls] at hcalls
    refine ⟨⟨backupObject key content t, ?_, rfl⟩, fun other hother => ?_, fun hle => ?_,
      fun hlt => ?_⟩
    · rw [hleaves.objects]
      exact Objects.get?_put_self r.world.objects (backupObject key content t)
    · rw [hleaves.objects]
      exact Objects.get?_put_of_ne _ _ _ hother.symm
    · rwa [if_neg (by omega)] at hcalls
    · rw [if_pos hlt] at hcalls
      have hpos : 0 < r.world.limits.chunk.toNat := by omega
      exact ⟨_, partsFrom_ne_nil hpos (by omega), isCut_partsOf hpos content, hcalls⟩
  · rintro _ s ⟨⟨hquiet, -⟩, cause, rfl, hcalls⟩
    exact ⟨cause, rfl, hquiet.objects, hcalls⟩

end Course

/-- A run in which the second part of an upload cannot be sent, and the upload not be given up. -/
def brokenRun : Run :=
  { world := { limits := ⟨2, 2⟩
               faults := [("upload_part", none), ("upload_part", some (.unreachable "reset")),
                 ("abort_multipart_upload", some (.unreachable "timeout"))] } }

theorem upload_brokenRun :
    ((upload "bucket" "dump.rdb" ⟨#[1, 2, 3]⟩).on brokenRun).1 =
      .error (.storage ⟨.s3, .upload "dump.rdb", .unreachable "reset"⟩) := by
  have hparts : partsOf 2 ⟨#[1, 2, 3]⟩ = [⟨#[1, 2]⟩, ⟨#[3]⟩] := by decide +kernel
  rw [upload, on_guarded, Act.on_get_bind]
  dsimp only [brokenRun]
  rw [if_pos (by decide), uploadParts]
  simp only [sendAll, show (2 : Int).toNat = 2 from rfl, hparts]
  rfl

/-- What is reported is that the part was lost, and not that the upload could not be given up. -/
theorem abandoned_in_brokenRun :
    (DateTime.ofReading brokenRun.world.now = .ok ⟨63840916805000000, some 0⟩ ∧
      0 ≤ brokenRun.world.limits.threshold ∧ 1 ≤ brokenRun.world.limits.chunk ∧
      ∀ c : Call, c.isOfUpload = true → ∀ f, (c.name, some f) ∈ brokenRun.world.faults →
        f.isOf .s3 = true) ∧
    ∃ s, (upload "bucket" "dump.rdb" ⟨#[1, 2, 3]⟩).on brokenRun =
        (.error (.storage ⟨.s3, .upload "dump.rdb", .unreachable "reset"⟩), s) ∧
      Abandoned "bucket" "dump.rdb" ⟨#[1, 2, 3]⟩ brokenRun s (.unreachable "reset") := by
  have hnow : DateTime.ofReading brokenRun.world.now = .ok ⟨63840916805000000, some 0⟩ := rfl
  have hfaults : ∀ c : Call, c.isOfUpload = true → ∀ f, (c.name, some f) ∈ brokenRun.world.faults →
      f.isOf .s3 = true := by
    have hplanned : ∀ e ∈ brokenRun.world.faults, e.2.all (·.isOf .s3) = true := by decide
    exact fun c _ f hf => hplanned _ hf
  refine ⟨⟨hnow, by decide, by decide, hfaults⟩, _, Prod.ext upload_brokenRun rfl, ?_⟩
  obtain ⟨cause, hcause, h⟩ := (upload_all_or_nothing "bucket" "dump.rdb" ⟨#[1, 2, 3]⟩ brokenRun
    hnow (by decide) (by decide) hfaults).of_error (Prod.ext upload_brokenRun rfl)
  injection hcause with hcause
  injection hcause with _ _ hcause
  rwa [hcause]

end S3

end DumpKeeper
