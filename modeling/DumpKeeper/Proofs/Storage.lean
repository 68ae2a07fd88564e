import DumpKeeper.Proofs.Act
import DumpKeeper.Proofs.Objects
import DumpKeeper.Storage

/-!
# What the operations of a store do

Both kinds of stores keep the same promises, whichever calls fail on the way.

* An upload stores the whole content under its key, or leaves the objects as they were
  (`Store.upload_ends`).  An upload in parts is the interesting case: what is stored is put together
  from the parts that were kept under the upload's name, and these are the content again
  (`World.join_sent`), whatever earlier uploads have left there.
* A listing gives the records of all objects below a text, in the order of the store, or fails and
  gives none (`Store.list_ends`).  How the objects were cut into pages does not matter.
* A deletion removes at most the object it is about (`Store.delete_ends`).

Where no fault is planned, the operations fail only on points in time that are none.
-/

set_option autoImplicit false

namespace DumpKeeper

/-! ## Faults that are reported -/

/-- What becomes of a failure of the `action` when `backend` reports the faults that it counts
on. -/
def Failure.reported (backend : BackendKind) (action : StorageAction) : Failure → Failure
  | .service f => if f.isOf backend then .storage ⟨backend, action, f⟩ else .service f
  | f => f

theorem relayed_eq_reported (backend : BackendKind) (action : StorageAction) :
    Act.relayed (·.isOf backend) (fun f => .storage ⟨backend, action, f⟩) =
      Failure.reported backend action := by
  funext f
  cases f <;> rfl

theorem guarded_eq_relaying {α : Type} (backend : BackendKind) (action : StorageAction)
    (t : Act α) :
    guarded backend action t =
      t.relaying (·.isOf backend) fun f => .storage ⟨backend, action, f⟩ := rfl

theorem Store.connect_eq_relaying (t : StorageTarget) :
    connect t = (do
      (request (clientCall t)).relaying (·.refusesClient t.kind) fun f =>
        .storage ⟨t.kind, .connect, f⟩
      return ⟨t.kind, t.bucket⟩) := by
  rw [Act.relaying_bind]
  refine bind_congr fun answer => ?_
  rcases answer with f | _
  · cases f <;> rfl
  · rfl

theorem on_guarded {α : Type} (backend : BackendKind) (action : StorageAction) (t : Act α)
    (r : Run) :
    (guarded backend action t).on r =
      ((t.on r).1.mapError (Failure.reported backend action), (t.on r).2) := by
  rw [guarded_eq_relaying, Act.on_relaying, relayed_eq_reported]

theorem guarded_ends {α : Type} {t : Act α} {r : Run} {done : α → Run → Prop}
    {failed failed' : Failure → Run → Prop} (backend : BackendKind) (action : StorageAction)
    (h : t.Ends r done failed)
    (hf : ∀ f s, failed f s → failed' (f.reported backend action) s) :
    (guarded backend action t).Ends r done failed' := by
  rw [guarded_eq_relaying]
  refine h.relaying fun f s hs => ?_
  rw [relayed_eq_reported]
  exact hf f s hs

/-! ## Uploads -/

/-- A dump with the `content`, as it is stored under `key` at the time `now`. -/
def backupObject (key : String) (content : ByteArray) (now : DateTime) : StoredObject :=
  ⟨key, content, some content.size, some now⟩

/-- Between `r` and `s` a content was stored under a key, at the time of the clock. -/
def Run.Stores (key : String) (content : ByteArray) (r s : Run) : Prop :=
  ∃ now, DateTime.ofReading r.world.now = .ok now ∧
    r.Leaves s (Objects.put (backupObject key content now) r.world.objects)

/-- An upload that failed, from `r` to `s`, has changed nothing.  Where no fault was planned, the
clock is to blame. -/
def Run.Refuses (r s : Run) : Prop :=
  r.Quiet s ∧ (r.world.faults = [] → ∃ t, DateTime.ofReading r.world.now = .error t)

theorem Run.Quiet.stores {r s t : Run} {key : String} {content : ByteArray} (h : r.Quiet s)
    (hs : s.Stores key content t) : r.Stores key content t := by
  obtain ⟨now, hn, hl⟩ := hs
  rw [h.now] at hn
  rw [h.objects] at hl
  exact ⟨now, hn, h.leaves hl⟩

theorem Run.Quiet.refuses {r s t : Run} (h : r.Quiet s) (hs : s.Refuses t) : r.Refuses t := by
  refine ⟨h.trans hs.1, fun hr => ?_⟩
  rw [← h.now]
  exact hs.2 (h.calm hr)

theorem Run.Refuses.quiet {r s t : Run} (h : r.Refuses s) (hs : s.Quiet t) : r.Refuses t :=
  ⟨h.1.trans hs, h.2⟩

/-- A call that failed refuses the upload it belongs to. -/
theorem Run.Quiet.refuses_of_faults {r s : Run} (h : r.Quiet s) (hf : r.world.faults ≠ []) :
    r.Refuses s := ⟨h, fun hr => absurd hr hf⟩

/-- The last step of every upload: the store takes what it has got at the time of the clock. -/
theorem storeNow_ends (key : String) (content : ByteArray) (r : Run) :
    Act.Ends (do
        let now ← currentTime
        changeWorld fun w => w.store key content now) r
      (fun _ s => r.Stores key content s) fun _ s => r.Refuses s := by
  refine (Act.currentTime_ends r).bind_of ?_ ?_
  · rintro _ s ⟨rfl, t, h, -⟩
    exact ⟨Run.Quiet.refl s, fun _ => ⟨t, h⟩⟩
  · rintro now s ⟨rfl, h⟩
    exact Act.ends_of_ok (Act.on_changeWorld _ s) ⟨now, h, rfl, id⟩

/-- A call `c`, and then the store takes the `content` it has got. -/
theorem request_storeNow_ends (c : Call) (key : String) (content : ByteArray) (r : Run) :
    Act.Ends (do
        request c
        let now ← currentTime
        changeWorld fun w => w.store key content now) r
      (fun _ s => r.Stores key content s) fun _ s => r.Refuses s := by
  refine (Act.request_ends c r).bind_of (fun _ s h => h.1.refuses_of_faults h.2.1) fun _ s h => ?_
  exact (storeNow_ends key content s).mono (fun _ _ hs => h.1.stores hs)
    fun _ _ hs => h.1.refuses hs

namespace S3

/-! ### Uploads in parts -/

/-- The parts as the store of `w` keeps them under the name of their upload. -/
def keptParts (w : World) (id : String) (number : Nat) (bodies : List ByteArray) :
    List StoredPart :=
  (bodies.zipIdx number).map fun p => ⟨id, p.2, w.partMark id p.2 p.1, p.1⟩

/-- The numbers of parts, each with the mark that the store of `w` gives to its part. -/
def partMarks (w : World) (id : String) (number : Nat) (bodies : List ByteArray) :
    List (Nat × String) :=
  (bodies.zipIdx number).map fun p => (p.2, w.partMark id p.2 p.1)

variable {v w : World} {id : String} {number : Nat} {bodies : List ByteArray}
  {old : List StoredPart}

/-- The part of a number is the last one that was sent under it, and `part?` finds it by the mark
that it was answered with. -/
theorem part?_sent (h : w.parts = old ++ keptParts v id number bodies) {p : ByteArray × Nat}
    (hp : p ∈ bodies.zipIdx number) : w.part? id (p.2, v.partMark id p.2 p.1) = some p.1 := by
  have hmem : ⟨id, p.2, v.partMark id p.2 p.1, p.1⟩ ∈ (keptParts v id number bodies).reverse :=
    List.mem_reverse.2 (List.mem_map.2 ⟨p, hp, rfl⟩)
  have hsome : ((keptParts v id number bodies).reverse.find? fun q =>
      q.upload == id && q.number == p.2).isSome := by
    rw [List.find?_isSome]
    exact ⟨_, hmem, by simp⟩
  obtain ⟨q, hq⟩ := Option.isSome_iff_exists.1 hsome
  have hqp : q = ⟨id, p.2, v.partMark id p.2 p.1, p.1⟩ := by
    obtain ⟨p', hp', rfl⟩ := List.mem_map.1 (List.mem_reverse.1 (List.mem_of_find?_eq_some hq))
    have hn : p'.2 = p.2 := by
      have := List.find?_some hq
      simp only [beq_self_eq_true, Bool.true_and, beq_iff_eq] at this
      exact this
    -- a number stands at one place of the list only
    have h1 := List.mem_zipIdx_iff_le_and_getElem?_sub.1 hp
    have h2 := List.mem_zipIdx_iff_le_and_getElem?_sub.1 hp'
    rw [hn, h1.2] at h2
    rw [hn, ← Option.some.inj h2.2]
  rw [World.part?, h, List.reverse_append, List.find?_append, hq, Option.some_or, Option.bind_some,
    hqp]
  exact if_pos (beq_self_eq_true _)

/-- **What was sent in parts is put together again** by the `partMarks` that the store has
answered. -/
theorem join?_sent (h : w.parts = old ++ keptParts v id number bodies) :
    w.join? id (partMarks v id number bodies) = some (joined bodies) := by
  have hall : (partMarks v id number bodies).all (fun m => (w.part? id m).isSome) = true := by
    rw [List.all_eq_true]
    intro m hm
    obtain ⟨p, hp, rfl⟩ := List.mem_map.1 hm
    rw [part?_sent h hp]
    rfl
  have hparts : (partMarks v id number bodies).filterMap (w.part? id) =
      (bodies.zipIdx number).map (·.1) := by
    rw [partMarks, List.filterMap_map, ← List.filterMap_eq_map]
    exact List.filterMap_congr fun p hp => part?_sent h hp
  rw [World.join?, if_pos hall, hparts, List.zipIdx_map_fst]

/-- The parts `bodies` are sent in order, and each is kept under its number with its mark. -/
theorem sendParts_ends (bucket key id : String) (number : Nat) (bodies : List ByteArray) (r : Run) :
    (sendParts bucket key id number bodies).Ends r
      (fun marks s => r.Quiet s ∧ marks = partMarks r.world id number bodies ∧
        s.world.parts = r.world.parts ++ keptParts r.world id number bodies)
      fun _ s => r.Quiet s ∧ r.world.faults ≠ [] := by
  -- each part goes behind those that were kept before, whatever number it has
  induction bodies generalizing number r with
  | nil => exact Act.Ends.pure ⟨Run.Quiet.refl r, rfl, (List.append_nil _).symm⟩
  | cons body rest ih =>
    rw [sendParts]
    refine (Act.request_ends _ r).bind_of (fun _ _ h => ⟨h.1, h.2.1⟩) ?_
    rintro _ s ⟨hs, hparts, -⟩
    let s' : Run := { s with world := (s.world.keepPart id number body).2 }
    have hs' : r.Quiet s' := hs.trans ⟨rfl, fun h => h⟩
    have hmark : s'.world.partMark = r.world.partMark := hs'.partMark
    refine Act.Ends.bind_ok (s := s') rfl ?_
    refine (ih (number + 1) s').bind_of
      (fun _ _ h => ⟨hs'.trans h.1, fun hr => h.2 (hs'.calm hr)⟩) ?_
    rintro marks t ⟨ht, rfl, hp⟩
    refine Act.Ends.pure ⟨hs'.trans ht, ?_, ?_⟩
    · rw [partMarks, partMarks, hmark, List.zipIdx_cons, List.map_cons]
      exact congrArg (fun mark => (number, mark id number body) :: _) hs.partMark
    · rw [hp, keptParts, keptParts, hmark]
      show (s.world.parts ++ [⟨id, number, s.world.partMark id number body, body⟩]) ++ _ = _
      rw [hparts, List.append_assoc, hs.partMark]
      rfl

/-- **The marks are always known**: what `sendAll` stores in the end is made of all the parts. -/
theorem sendAll_eq (bucket key id : String) (chunk : Int) (content : ByteArray) :
    sendAll bucket key id chunk content = (do
      if chunk = 0 then fail (.service (.badValue "range() arg 3 must not be zero"))
      let marks ← sendParts bucket key id 1 (partsOf chunk.toNat content)
      request (.completeUpload bucket key id marks)
      let now ← currentTime
      changeWorld fun w => w.store key (joined (partsOf chunk.toNat content)) now) := by
  rw [sendAll]
  split
  · rfl
  refine Act.ext fun r => ?_
  have hsent := sendParts_ends bucket key id 1 (partsOf chunk.toNat content) r
  rw [Act.on_bind, Act.on_bind]
  rcases hs : (sendParts bucket key id 1 (partsOf chunk.toNat content)).on r with ⟨f | marks, s⟩
  · rfl
  obtain ⟨-, rfl, hparts⟩ := hsent.of_ok hs
  dsimp only
  have hrequest := Act.request_ends (.completeUpload bucket key id
    (partMarks r.world id 1 (partsOf chunk.toNat content))) s
  rw [Act.on_bind, Act.on_bind]
  rcases ht : (request (.completeUpload bucket key id
    (partMarks r.world id 1 (partsOf chunk.toNat content)))).on s with ⟨f | _, t⟩
  · rfl
  dsimp only
  rw [Act.on_get_bind, join?_sent ((hrequest.of_ok ht).2.1.trans hparts)]

theorem sendAll_ends (bucket key id : String) {chunk : Int} (h : 0 < chunk) (content : ByteArray)
    (r : Run) :
    (sendAll bucket key id chunk content).Ends r (fun _ s => r.Stores key content s)
      fun _ s => r.Refuses s := by
  rw [sendAll_eq, joined_partsOf _ _ (by omega)]
  simp only [if_neg (show ¬chunk = 0 by omega)]
  refine (sendParts_ends bucket key id 1 (partsOf chunk.toNat content) r).bind_of
    (fun _ _ h => h.1.refuses_of_faults h.2) ?_
  rintro marks s ⟨hs, -, -⟩
  exact (request_storeNow_ends _ key content s).mono (fun _ _ hu => hs.stores hu)
    fun _ _ hu => hs.refuses hu

theorem isQuiet_giveUp (bucket key id : String) : (giveUp bucket key id).IsQuiet := by
  refine (Act.IsQuiet.attempt (Act.isQuiet_request _)).bind fun e => ?_
  rcases e with f | _
  · cases f with
    | service f => exact Act.IsQuiet.ite (Act.isAside_say _ _ _).isQuiet (Act.IsQuiet.fail _)
    | _ => exact Act.IsQuiet.fail _
  · exact Act.IsQuiet.pure _

theorem uploadParts_ends (bucket key : String) {chunk : Int} (h : 0 < chunk) (content : ByteArray)
    (r : Run) :
    (uploadParts bucket key chunk content).Ends r (fun _ s => r.Stores key content s)
      fun _ s => r.Refuses s := by
  rw [uploadParts]
  refine (Act.request_ends _ r).bind_of (fun _ _ h => h.1.refuses_of_faults h.2.1) ?_
  rintro _ s ⟨hs, -⟩
  refine Act.Ends.get_bind ?_
  let s' : Run := { s with world := s.world.begin.2 }
  have hs' : r.Quiet s' := hs.trans ⟨rfl, fun h => h⟩
  refine Act.Ends.bind_ok (s := s') (Act.on_changeWorld _ s) ?_
  refine (sendAll_ends bucket key s.world.begin.1 h content s').attempt (fun _ t ht => ?_)
    fun f t ht => ?_
  · exact Act.Ends.pure (hs'.stores ht)
  · have hr := hs'.refuses ht
    cases f with
    | service f =>
      dsimp only
      split
      · exact ((isQuiet_giveUp bucket key s.world.begin.1).ends t).bind_of
          (fun _ _ hu => hr.quiet hu) fun _ _ hu => Act.Ends.fail (hr.quiet hu)
      · exact Act.Ends.fail hr
    | _ => exact Act.Ends.fail hr

theorem upload_ends (bucket key : String) (content : ByteArray) (r : Run)
    (h : 0 < r.world.limits.chunk) :
    (upload bucket key content).Ends r (fun _ s => r.Stores key content s)
      fun _ s => r.Refuses s := by
  refine guarded_ends .s3 (.upload key) (?_ : Act.Ends _ r _ fun _ s => r.Refuses s)
    fun _ _ hf => hf
  refine Act.Ends.get_bind ?_
  dsimp only
  split
  · exact uploadParts_ends bucket key h content r
  · exact request_storeNow_ends _ key content r

end S3

/-- **An upload stores the whole `content` or changes nothing**, whichever calls fail. -/
theorem Store.upload_ends (s : Store) (key : String) (content : ByteArray) (r : Run)
    (h : 0 < r.world.limits.chunk) :
    (s.upload key content).Ends r (fun _ t => r.Stores key content t) fun _ t => r.Refuses t := by
  rw [Store.upload]
  cases s.kind with
  | s3 => exact S3.upload_ends s.bucket key content r h
  | gcs =>
    exact guarded_ends .gcs (.upload key) (request_storeNow_ends _ key content r) fun _ _ hf => hf

/-! ## Listings -/

namespace World

variable {w : World} {beginning : String}

theorem mem_listing {o : StoredObject} :
    o ∈ w.listing beginning ↔ o ∈ w.objects ∧ beginsWith beginning o.key = true := by
  rw [(w.listing_perm beginning).mem_iff, Objects.below, List.mem_filter]

theorem distinct_listing (h : w.objects.Distinct) (beginning : String) :
    (w.listing beginning).Distinct :=
  ((w.listing_perm beginning).map _).nodup_iff.2 (h.sublist List.filter_sublist)

end World

/-- What is left of the objects `without` those that are gone is listed in the same order as
before. -/
theorem Run.Leaves.listing_without {r t : Run} {gone : List String}
    (h : r.Leaves t (r.world.objects.without gone)) (beginning : String) :
    t.world.listing beginning = (r.world.listing beginning).without gone := by
  rw [h.listing, Objects.below_without]
  exact r.world.order.filter _ _

theorem recordsOf_nil : recordsOf [] = .ok [] := rfl

theorem recordsOf_cons (o : StoredObject) (os : Objects) :
    recordsOf (o :: os) = do
      let record ← recordOf o
      let more ← recordsOf os
      return record.toList ++ more := by
  rw [recordsOf, List.mapM_cons]
  rcases recordOf o with f | record
  · rfl
  · rw [recordsOf]
    rcases List.mapM recordOf os with f | records
    · rfl
    · cases record <;> rfl

theorem recordsOf_append (os os' : Objects) :
    recordsOf (os ++ os') = do
      let records ← recordsOf os
      let more ← recordsOf os'
      return records ++ more := by
  induction os with
  | nil =>
    rw [List.nil_append, recordsOf_nil]
    rcases recordsOf os' with f | records <;> rfl
  | cons o os ih =>
    rw [List.cons_append, recordsOf_cons, ih, recordsOf_cons]
    rcases recordOf o with f | record
    · rfl
    · rcases recordsOf os with f | records
      · rfl
      · rcases recordsOf os' with f | more
        · rfl
        · exact congrArg Except.ok (List.append_assoc _ _ _).symm

theorem recordOf_error {o : StoredObject} {f : Failure} (h : recordOf o = .error f) :
    f = .time .beyondDates := by
  rw [recordOf] at h
  split at h
  · cases h
  · split at h
    · cases h
    · exact (Except.error.inj h).symm

/-- `recordsOf` fails only because of a time that the clock of a store cannot show. -/
theorem recordsOf_error {os : Objects} {f : Failure} (h : recordsOf os = .error f) :
    f = .time .beyondDates := by
  induction os with
  | nil => cases h
  | cons o os ih =>
    rw [recordsOf_cons] at h
    rcases ho : recordOf o with g | record
    · rw [ho] at h
      exact recordOf_error (ho.trans (congrArg Except.error (Except.error.inj h)))
    · rw [ho] at h
      rcases hos : recordsOf os with g | records
      · rw [hos] at h
        exact ih (hos.trans (congrArg Except.error (Except.error.inj h)))
      · rw [hos] at h
        cases h

/-- The listing `t` has come to the records of the objects `os`, or to what keeps them from having
any. -/
def Lists (os : Objects) (r : Run) (t : Act (List Record)) : Prop :=
  t.Ends r (fun records s => recordsOf os = .ok records ∧ r.Quiet s)
    fun f s => r.Quiet s ∧ (r.world.faults = [] → recordsOf os = .error f)

/-- A `backend` has nothing to report about a time that is none. -/
theorem Lists.guarded {os : Objects} {r : Run} {t : Act (List Record)} (h : Lists os r t)
    (backend : BackendKind) (action : StorageAction) : Lists os r (guarded backend action t) := by
  refine guarded_ends backend action h fun f s ⟨hq, hf⟩ => ⟨hq, fun hr => ?_⟩
  rw [hf hr, recordsOf_error (hf hr)]
  rfl

/-- Some records, and then those of the other objects. -/
theorem Lists.append {os os' : Objects} {r : Run} {t t' : Act (List Record)} (h : Lists os r t)
    (h' : ∀ s, r.Quiet s → Lists os' s t') :
    Lists (os ++ os') r (do
      let records ← t
      let more ← t'
      return records ++ more) := by
  refine Act.Ends.bind_of h ?_ ?_
  · rintro f s ⟨hs, hf⟩
    refine ⟨hs, fun hr => ?_⟩
    rw [recordsOf_append, hf hr]
    rfl
  rintro records s ⟨ho, hs⟩
  refine Act.Ends.bind_of (h' s hs) ?_ ?_
  · rintro f u ⟨hu, hf⟩
    refine ⟨hs.trans hu, fun hr => ?_⟩
    rw [recordsOf_append, ho, hf (hs.calm hr)]
    rfl
  · rintro more u ⟨ho', hu⟩
    refine Act.Ends.pure ⟨?_, hs.trans hu⟩
    rw [recordsOf_append, ho, ho']
    rfl

/-- What is known without a call: `recordsOf os`. -/
theorem lists_liftM (os : Objects) (r : Run) : Lists os r (liftM (recordsOf os)) := by
  refine (Act.liftM_ends (recordsOf os) r).mono ?_ ?_
  · rintro records s ⟨rfl, h⟩
    exact ⟨h, Run.Quiet.refl s⟩
  · rintro f s ⟨rfl, h⟩
    exact ⟨Run.Quiet.refl s, fun _ => h⟩

/-- A call before a listing. -/
theorem Lists.after {os : Objects} {r : Run} {t : Act (List Record)} {u : Act Unit}
    (h : u.Ends r (fun _ s => r.Quiet s) fun _ s => r.Quiet s ∧ r.world.faults ≠ [])
    (ht : ∀ s, r.Quiet s → Lists os s t) : Lists os r (do u; t) := by
  refine h.bind_of (fun f s hf => ⟨hf.1, fun hr => absurd hr hf.2⟩) fun _ s hs => ?_
  exact Act.Ends.mono (ht s hs) (fun _ _ hd => ⟨hd.1, hs.trans hd.2⟩)
    fun _ _ hf => ⟨hs.trans hf.1, fun hr => hf.2 (hs.calm hr)⟩

theorem lists_request (c : Call) {os : Objects} {r : Run} {t : Act (List Record)}
    (ht : ∀ s, r.Quiet s → Lists os s t) : Lists os r (do request c; t) :=
  Lists.after ((Act.request_ends c r).mono (fun _ _ h => h.1) fun _ _ h => ⟨h.1, h.2.1⟩) ht

namespace S3

/-- However the objects are `cut` into pages, all of them are listed. -/
theorem lists_readPages (bucket beginning : String) (number : Nat) (cut : List Objects) (r : Run) :
    Lists cut.flatten r (readPages bucket beginning number cut) := by
  induction cut generalizing number r with
  | nil => exact Act.Ends.pure ⟨rfl, Run.Quiet.refl r⟩
  | cons page rest ih =>
    rw [readPages, List.flatten_cons]
    exact lists_request _ fun s _ => (lists_liftM page s).append fun u _ => ih (number + 1) u

theorem lists_list (bucket beginning : String) (r : Run) :
    Lists (r.world.listing beginning) r (list bucket beginning) := by
  refine Lists.guarded ?_ .s3 (.list beginning)
  refine Act.Ends.get_bind ?_
  have h := lists_readPages bucket beginning 1
    (pages r.world.pageSize (r.world.listing beginning)) r
  rwa [flatten_pages] at h

end S3

namespace Gcs

theorem on_meetNext (r : Run) :
    meetNext.on r = ((r.world.meet nextBlobName).1.mapError Failure.service,
      { r with world := (r.world.meet nextBlobName).2 }) := by
  rw [meetNext, Act.on_get_bind]
  rcases r.world.meet nextBlobName with ⟨_ | _, w⟩ <;> rfl

theorem meetNext_ends (r : Run) :
    meetNext.Ends r (fun _ s => r.Quiet s) fun _ s => r.Quiet s ∧ r.world.faults ≠ [] := by
  have hq : r.Quiet { r with world := (r.world.meet nextBlobName).2 } := by
    refine ⟨rfl, fun h => ?_⟩
    rw [World.meet_of_calm h]
    exact h
  refine ⟨fun ht => ?_, fun ht => ?_⟩
  · rw [on_meetNext, Prod.mk.injEq] at ht
    obtain ⟨-, rfl⟩ := ht
    exact hq
  · rw [on_meetNext, Prod.mk.injEq] at ht
    obtain ⟨hf, rfl⟩ := ht
    refine ⟨hq, fun h => ?_⟩
    rw [World.meet_of_calm h] at hf
    cases hf

theorem recordsOf_singleton (o : StoredObject) :
    recordsOf [o] = (recordOf o).map Option.toList := by
  rw [recordsOf_cons]
  rcases recordOf o with f | record
  · rfl
  · exact congrArg Except.ok (List.append_nil _)

/-- An entry is a page of its own, so that pages and entries are put together by one rule. -/
theorem readEntries_cons (o : StoredObject) (rest : Objects) :
    readEntries (o :: rest) = do
      meetNext
      let records ← liftM (recordsOf [o])
      let more ← readEntries rest
      return records ++ more := by
  rw [readEntries]
  refine bind_congr fun _ => Act.ext fun s => ?_
  rw [Act.on_bind, Act.on_bind, Act.on_liftM, Act.on_liftM, recordsOf_singleton]
  rcases recordOf o with f | record <;> rfl

/-- A listing that comes entry by entry, by `readEntries`. -/
theorem lists_readEntries (os : Objects) (r : Run) : Lists os r (readEntries os) := by
  induction os generalizing r with
  | nil => exact Act.Ends.pure ⟨rfl, Run.Quiet.refl r⟩
  | cons o rest ih =>
    rw [readEntries_cons]
    exact Lists.after (meetNext_ends r) fun s _ =>
      (lists_liftM [o] s).append fun u _ => ih u

theorem lists_list (bucket beginning : String) (r : Run) :
    Lists (r.world.listing beginning) r (list bucket beginning) := by
  refine Lists.guarded (lists_request _ fun s hs => ?_) .gcs (.list beginning)
  refine Act.Ends.get_bind ?_
  rw [← hs.listing]
  exact lists_readEntries _ s

end Gcs

/-- **A listing gives all records or none**, however the store `s` fetches it.  Where no fault is
planned, it fails only if some object has a time that is none. -/
theorem Store.list_ends (s : Store) (beginning : String) (r : Run) :
    (s.list beginning).Ends r
      (fun records t => recordsOf (r.world.listing beginning) = .ok records ∧ r.Quiet t)
      fun f t => r.Quiet t ∧
        (r.world.faults = [] → recordsOf (r.world.listing beginning) = .error f) := by
  rw [Store.list]
  cases s.kind with
  | s3 => exact S3.lists_list s.bucket beginning r
  | gcs => exact Gcs.lists_list s.bucket beginning r

/-- A listing that was read gives the records of the objects that begin with `beginning`. -/
theorem Store.recordsOf_of_list {s : Store} {beginning : String} {r : Run} {records : List Record}
    (h : ((s.list beginning).on r).1 = .ok records) :
    recordsOf (r.world.listing beginning) = .ok records := by
  rcases he : (s.list beginning).on r with ⟨f | a, t⟩
  · rw [he] at h
    cases h
  · rw [he] at h
    obtain rfl := Except.ok.inj h
    exact ((s.list_ends beginning r).of_ok he).1

/-! ### What a listing looks at -/

theorem isWorldly_guarded {α : Type} {t : Act α} (backend : BackendKind) (action : StorageAction)
    (h : t.IsWorldly) : (guarded backend action t).IsWorldly := fun r s hw => by
  rw [on_guarded, on_guarded, (h r s hw).1]
  exact ⟨rfl, (h r s hw).2⟩

theorem S3.isWorldly_readPages (bucket beginning : String) (number : Nat) (cut : List Objects) :
    (S3.readPages bucket beginning number cut).IsWorldly := by
  induction cut generalizing number with
  | nil => exact Act.IsWorldly.pure _
  | cons page rest ih =>
    exact (Act.isWorldly_request _).bind fun _ => (Act.IsWorldly.liftM _).bind fun _ =>
      (ih (number + 1)).bind fun _ => Act.IsWorldly.pure _

theorem Gcs.isWorldly_meetNext : Gcs.meetNext.IsWorldly := by
  refine Act.IsWorldly.get_bind (fun w => do
    changeWorld fun _ => (w.meet nextBlobName).2
    liftM ((w.meet nextBlobName).1.mapError Failure.service)) (fun r => ?_) fun w => ?_
  · rcases r.world.meet nextBlobName with ⟨_ | _, w⟩ <;> rfl
  · exact (Act.isWorldly_changeWorld _).bind fun _ => Act.IsWorldly.liftM _

theorem Gcs.isWorldly_readEntries (os : Objects) : (Gcs.readEntries os).IsWorldly := by
  induction os with
  | nil => exact Act.IsWorldly.pure _
  | cons o rest ih =>
    exact Gcs.isWorldly_meetNext.bind fun _ => (Act.IsWorldly.liftM _).bind fun _ =>
      ih.bind fun _ => Act.IsWorldly.pure _

/-- **A listing depends on the world only**, whatever was noted or counted before it: `list` is
`IsWorldly`. -/
theorem Store.isWorldly_list (s : Store) (beginning : String) : (s.list beginning).IsWorldly := by
  rw [Store.list]
  cases s.kind with
  | s3 =>
    refine isWorldly_guarded _ _ (Act.IsWorldly.get_bind (fun w =>
      S3.readPages s.bucket beginning 1 (pages w.pageSize (w.listing beginning)))
      (fun _ => rfl) fun w => ?_)
    exact S3.isWorldly_readPages _ _ _ _
  | gcs =>
    refine isWorldly_guarded _ _ ((Act.isWorldly_request _).bind fun _ => ?_)
    exact Act.IsWorldly.get_bind (fun w => Gcs.readEntries (w.listing beginning))
      (fun _ => rfl) fun w => Gcs.isWorldly_readEntries _

/-! ## Deletions -/

/-- Between `r` and `s` some of the objects of some keys were removed; all of them, where no fault
was planned. -/
def Run.Removes (keys : List String) (r s : Run) : Prop :=
  ∃ gone, gone ⊆ keys ∧ r.Leaves s (r.world.objects.without gone) ∧
    (r.world.faults = [] → gone = keys)

namespace Run

variable {r s t : Run} {keys keys' : List String}

theorem Quiet.removes_nil (h : r.Quiet s) : Removes [] r s := by
  refine ⟨[], List.Subset.refl _, ?_, fun _ => rfl⟩
  rwa [Objects.without_nil]

/-- Where faults were planned, nothing removed is as good as anything. -/
theorem Quiet.removes_of_faults (h : r.Quiet s) (hf : r.world.faults ≠ []) : Removes keys r s := by
  refine ⟨[], List.nil_subset _, ?_, fun hr => absurd hr hf⟩
  rwa [Objects.without_nil]

theorem Quiet.removes (h : r.Quiet s) (hs : Removes keys s t) : Removes keys r t := by
  obtain ⟨gone, hg, hl, hc⟩ := hs
  rw [h.objects] at hl
  exact ⟨gone, hg, h.leaves hl, fun hr => hc (h.calm hr)⟩

theorem Removes.quiet (h : Removes keys r s) (hs : s.Quiet t) : Removes keys r t := by
  obtain ⟨gone, hg, hl, hc⟩ := h
  exact ⟨gone, hg, hl.quiet hs, hc⟩

/-- Where faults were planned, some of the objects are some of more objects. -/
theorem Removes.mono_of_faults (h : Removes keys r s) (hk : keys ⊆ keys')
    (hf : r.world.faults ≠ []) : Removes keys' r s := by
  obtain ⟨gone, hg, hl, _⟩ := h
  exact ⟨gone, List.Subset.trans hg hk, hl, fun hr => absurd hr hf⟩

theorem Removes.calm (h : Removes keys r s) (hr : r.world.faults = []) : s.world.faults = [] := by
  obtain ⟨_, _, hl, _⟩ := h
  exact hl.calm hr

theorem Removes.trans (h : Removes keys r s) (hs : Removes keys' s t) :
    Removes (keys ++ keys') r t := by
  obtain ⟨gone, hg, hl, hc⟩ := h
  obtain ⟨gone', hg', hl', hc'⟩ := hs
  rw [hl.objects, ← Objects.without_append] at hl'
  refine ⟨gone ++ gone', List.append_subset.2 ⟨?_, ?_⟩, hl.trans hl', fun hr => ?_⟩
  · exact List.Subset.trans hg (List.subset_append_left _ _)
  · exact List.Subset.trans hg' (List.subset_append_right _ _)
  · rw [hc hr, hc' (hl.calm hr)]

end Run

theorem S3.delete_ends (bucket key : String) (r : Run) :
    (S3.delete bucket key).Ends r (fun _ s => r.Removes [key] s)
      fun _ s => r.Removes [key] s ∧ r.world.faults ≠ [] := by
  refine guarded_ends .s3 (.delete key)
    (?_ : Act.Ends _ r _ fun _ s => r.Removes [key] s ∧ r.world.faults ≠ []) fun _ _ hf => hf
  refine (Act.request_ends _ r).bind_of (fun _ s h => ⟨h.1.removes_of_faults h.2.1, h.2.1⟩) ?_
  rintro _ s ⟨hs, -⟩
  refine Act.ends_of_ok (Act.on_changeWorld _ s) (hs.removes ?_)
  refine ⟨[key], List.Subset.refl _, ⟨?_, fun h => h⟩, fun _ => rfl⟩
  show (s.world.discard key).scene = _
  rw [World.discard, Objects.erase_eq_without]
  rfl

/-- An object that is not there is reported as a fault of the store by `Gcs.remove`. -/
theorem Gcs.remove_ends (bucket key : String) (r : Run) :
    (Gcs.remove bucket key).Ends r (fun _ s => r.Removes [key] s)
      fun f s => r.Quiet s ∧ (∃ g, f = .service g) ∧
        (r.world.faults = [] → r.Removes [key] s ∧
          f = .service (.status ServiceFault.notFoundStatus key)) := by
  refine (Act.request_ends _ r).bind_of
    (fun _ s h => ⟨h.1, h.2.2, fun hr => absurd hr h.2.1⟩) ?_
  rintro _ s ⟨hs, -⟩
  refine Act.Ends.get_bind ?_
  dsimp only
  split
  · refine Act.ends_of_ok (Act.on_changeWorld _ s)
      (hs.removes ⟨[key], List.Subset.refl _, ⟨?_, fun h => h⟩, fun _ => rfl⟩)
    show (s.world.discard key).scene = _
    rw [World.discard, Objects.erase_eq_without]
    rfl
  · rename_i hg
    refine Act.Ends.fail ⟨hs, ⟨_, rfl⟩, fun _ =>
      ⟨hs.removes ⟨[key], List.Subset.refl _, ?_, fun _ => rfl⟩, rfl⟩⟩
    rw [Option.not_isSome_iff_eq_none] at hg
    rw [← Objects.erase_eq_without, Objects.erase_of_get?_eq_none hg]
    exact Run.Quiet.refl s

theorem Gcs.delete_ends (bucket key : String) (r : Run) :
    (Gcs.delete bucket key).Ends r (fun _ s => r.Removes [key] s)
      fun _ s => r.Removes [key] s ∧ r.world.faults ≠ [] := by
  refine guarded_ends .gcs (.delete key)
    (?_ : Act.Ends _ r _ fun _ s => r.Removes [key] s ∧ r.world.faults ≠ []) fun _ _ hf => hf
  refine (Gcs.remove_ends bucket key r).attempt (fun _ _ hd => Act.Ends.pure hd) ?_
  rintro f s ⟨hs, ⟨g, rfl⟩, hcalm⟩
  dsimp only
  split
  · have hr : r.Removes [key] s := by
      by_cases hr : r.world.faults = []
      · exact (hcalm hr).1
      · exact hs.removes_of_faults hr
    exact (Act.isAside_say _ _ _ s).mono (fun _ _ ht => hr.quiet (Run.Quiet.of_world ht))
      fun _ _ hf => hf.elim
  · rename_i hn
    have hf : r.world.faults ≠ [] := by
      intro hr
      have := (hcalm hr).2
      cases this
      exact hn rfl
    exact Act.Ends.fail ⟨hs.removes_of_faults hf, hf⟩

/-- **A deletion removes the object of `key` or nothing.**  Where no fault is planned, it does not
fail. -/
theorem Store.delete_ends (s : Store) (key : String) (r : Run) :
    (s.delete key).Ends r (fun _ t => r.Removes [key] t)
      fun _ t => r.Removes [key] t ∧ r.world.faults ≠ [] := by
  rw [Store.delete]
  cases s.kind with
  | s3 => exact S3.delete_ends s.bucket key r
  | gcs => exact Gcs.delete_ends s.bucket key r

end DumpKeeper
