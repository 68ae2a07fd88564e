import DumpKeeper.Proofs.Calendar
import DumpKeeper.Proofs.Storage
import DumpKeeper.Retention.Cleanup

/-!
# What a cleanup deletes

Records are put in order, and the rule tells for each place whether the record there is kept.  The
rule keeps all that stands before a border and nothing behind it.

* `kept_append_toDelete_perm` — every record is either kept or deleted, and none is both.
* `newestFirst_append_cons` — the place of a record in the order: behind those that are newer, and
  behind those of the same time that were listed before it.
* `mergeSort_filter` — records that are left out do not change the order of the others.
* `keptCount` — where the border is; `kept_eq_take` and `toDelete_eq_drop` cut the order there.
* `record?`, `recordsOf_eq_ok` — the records of objects, one by one.
* `partition_eq_ok` — the partition of a listing is made by the rule.
-/

set_option autoImplicit false

namespace DumpKeeper

/-! ## The two sides of a partition -/

section Partition

variable {keepLast : Int} {cutoff : Option DateTime} {records : List Record}

/-- Some of the records of `ordered`, taken by their places. -/
theorem filterMap_getElem?_zipIdx (ordered : List Record) (p : Record × Nat → Bool) :
    ((ordered.zipIdx.filter p).map (·.2)).filterMap (fun i => ordered[i]?) =
      (ordered.zipIdx.filter p).map (·.1) := by
  rw [List.filterMap_map, ← List.filterMap_eq_map]
  refine List.filterMap_congr fun e he => ?_
  exact List.mem_zipIdx_iff_getElem?.1 (List.mem_filter.1 he).1

theorem kept_partitionAt (records : List Record) (keepLast : Int) (cutoff : Option DateTime) :
    (partitionAt records keepLast cutoff).kept =
      ((newestFirst records).zipIdx.filter fun e => isKept keepLast cutoff e.2 e.1).map (·.1) :=
  filterMap_getElem?_zipIdx _ _

theorem contains_keptPlaces {ordered : List Record} {e : Record × Nat} (he : e ∈ ordered.zipIdx) :
    (keptPlaces keepLast cutoff ordered).contains e.2 = isKept keepLast cutoff e.2 e.1 := by
  rw [Bool.eq_iff_iff, List.contains_iff_mem, keptPlaces, List.mem_map]
  constructor
  · rintro ⟨e', he', h⟩
    rw [List.mem_filter, List.mem_zipIdx_iff_getElem?, h,
      List.mem_zipIdx_iff_getElem?.1 he, Option.some_inj] at he'
    rw [he'.1]
    exact he'.2
  · exact fun h => ⟨e, List.mem_filter.2 ⟨he, h⟩, rfl⟩

theorem delete_partitionAt (records : List Record) (keepLast : Int) (cutoff : Option DateTime) :
    (partitionAt records keepLast cutoff).delete =
      ((newestFirst records).zipIdx.filter fun e => !isKept keepLast cutoff e.2 e.1).map (·.2) := by
  have hrange : List.range (newestFirst records).length =
      (newestFirst records).zipIdx.map (·.2) := by
    rw [List.zipIdx_map_snd, List.range_eq_range']
  rw [Partition.delete, partitionAt, hrange, List.filter_map]
  refine congrArg (List.map _) (List.filter_congr fun e he => ?_)
  exact congrArg (!·) (contains_keptPlaces he)

theorem toDelete_partitionAt (records : List Record) (keepLast : Int) (cutoff : Option DateTime) :
    (partitionAt records keepLast cutoff).toDelete =
      ((newestFirst records).zipIdx.filter fun e => !isKept keepLast cutoff e.2 e.1).map (·.1) := by
  rw [Partition.toDelete, Partition.select, delete_partitionAt]
  exact filterMap_getElem?_zipIdx _ _

/-- **Every record is `kept` or in `toDelete`, and none is both.** -/
theorem kept_append_toDelete_perm (records : List Record) (keepLast : Int)
    (cutoff : Option DateTime) :
    ((partitionAt records keepLast cutoff).kept ++
      (partitionAt records keepLast cutoff).toDelete).Perm records := by
  rw [kept_partitionAt, toDelete_partitionAt, ← List.map_append]
  refine ((List.filter_append_perm _ _).map _).trans ?_
  rw [List.zipIdx_map_fst]
  exact List.mergeSort_perm _ _

theorem mem_of_mem_toDelete {a : Record} (h : a ∈ (partitionAt records keepLast cutoff).toDelete) :
    a ∈ records :=
  (kept_append_toDelete_perm records keepLast cutoff).subset (List.mem_append_right _ h)

/-- With distinct keys, no key is on both sides of `partitionAt`, and none is on one of them
twice. -/
theorem nodup_keys_partitionAt (h : (records.map (·.key)).Nodup) (keepLast : Int)
    (cutoff : Option DateTime) :
    ((partitionAt records keepLast cutoff).kept.map (·.key) ++
      (partitionAt records keepLast cutoff).toDelete.map (·.key)).Nodup := by
  rw [← List.map_append]
  exact ((kept_append_toDelete_perm records keepLast cutoff).map (·.key)).nodup_iff.2 h

/-- With distinct keys, the key of a record that is kept is none of those `toDelete`. -/
theorem key_notMem_toDelete (h : (records.map (·.key)).Nodup) {a : Record}
    (ha : a ∈ (partitionAt records keepLast cutoff).kept) :
    a.key ∉ (partitionAt records keepLast cutoff).toDelete.map (·.key) := fun hd =>
  (List.nodup_append.1 (nodup_keys_partitionAt h keepLast cutoff)).2.2 _ (List.mem_map_of_mem ha) _
    hd rfl

end Partition

/-! ## The order of records -/

/-- Whether `b` is newer than `a`. -/
def newerThan (a b : Record) : Bool := a.time.utcWall < b.time.utcWall

/-- Whether `a` and `b` have the same time. -/
def sameTime (a b : Record) : Bool := a.time.utcWall == b.time.utcWall

theorem noOlder_trans (a b c : Record) (hab : noOlder a b) (hbc : noOlder b c) : noOlder a c := by
  simp only [noOlder, decide_eq_true_eq] at *
  omega

theorem noOlder_total (a b : Record) : noOlder a b || noOlder b a := by
  simp only [noOlder, Bool.or_eq_true, decide_eq_true_eq]
  omega

theorem pairwise_newestFirst (records : List Record) :
    (newestFirst records).Pairwise fun a b => noOlder a b :=
  List.pairwise_mergeSort noOlder_trans noOlder_total records

theorem pairwise_utcWall_newestFirst (records : List Record) :
    (newestFirst records).Pairwise fun a b => b.time.utcWall ≤ a.time.utcWall := by
  refine (pairwise_newestFirst records).imp fun {a b} hab => ?_
  rwa [noOlder, decide_eq_true_eq] at hab

theorem newestFirst_perm (records : List Record) : (newestFirst records).Perm records :=
  List.mergeSort_perm records noOlder

/-- Sorting keeps the entries with the property `p` in the order that they have when they are sorted
alone. -/
theorem mergeSort_filter {α : Type} {le : α → α → Bool} (trans : ∀ a b c, le a b → le b c → le a c)
    (total : ∀ a b, le a b || le b a) (p : α → Bool) (l : List α) :
    (l.filter p).mergeSort le = (l.mergeSort le).filter p := by
  -- what stands before `a` in a sorted list is what may not stand behind it
  have hsides : ∀ {a : α} {front back : List α},
      (front ++ a :: back).Pairwise (fun b c => le b c) → (∀ b ∈ front, !le a b) →
      (front ++ back).filter (fun b => !le a b) = front ∧ (front ++ back).filter (le a) = back := by
    intro a front back hsorted hfront
    have hback : ∀ b ∈ back, le a b := (List.pairwise_cons.1 (List.pairwise_append.1 hsorted).2.1).1
    rw [List.filter_append, List.filter_append, List.filter_eq_self.2 hfront,
      List.filter_eq_nil_iff.2 fun b hb => by simpa using hback b hb,
      List.filter_eq_nil_iff.2 fun b hb => by simpa using hfront b hb, List.filter_eq_self.2 hback]
    exact ⟨List.append_nil _, rfl⟩
  induction l with
  | nil => rw [List.filter_nil, List.mergeSort_nil, List.filter_nil]
  | cons a l ih =>
    obtain ⟨front, back, hcons, hl, hfront⟩ := List.mergeSort_cons trans total a l
    rw [hcons, List.filter_append]
    by_cases ha : p a = true
    · obtain ⟨front', back', hcons', hl', hfront'⟩ :=
        List.mergeSort_cons trans total a (l.filter p)
      have hsorted := List.pairwise_mergeSort trans total (a :: l)
      have hsorted' := List.pairwise_mergeSort trans total (a :: l.filter p)
      rw [hcons] at hsorted
      rw [hcons'] at hsorted'
      have hrest : front' ++ back' = front.filter p ++ back.filter p := by
        rw [← hl', ih, hl, List.filter_append]
      have hside' := hsides hsorted' hfront'
      have hside := @hsides a (front.filter p) (back.filter p)
        (hsorted.sublist (List.filter_sublist.append (List.filter_sublist.cons_cons a)))
        fun b hb => hfront b (List.mem_filter.1 hb).1
      rw [hrest] at hside'
      rw [List.filter_cons_of_pos ha, List.filter_cons_of_pos ha, hcons', ← hside'.1, ← hside'.2,
        hside.1, hside.2]
    · rw [List.filter_cons_of_neg ha, List.filter_cons_of_neg ha, ih, hl, List.filter_append]

/-- A list in which all that has the property `p` stands before all that has it not. -/
theorem filter_append_filter_not {α : Type} {R : α → α → Prop} {p : α → Bool}
    (hp : ∀ a b, R a b → p b = true → p a = true) {l : List α} (h : l.Pairwise R) :
    l = l.filter p ++ l.filter fun a => !p a := by
  induction l with
  | nil => rfl
  | cons a rest ih =>
    obtain ⟨ha, hrest⟩ := List.pairwise_cons.1 h
    by_cases hpa : p a = true
    · rw [List.filter_cons_of_pos hpa, List.filter_cons_of_neg (by simpa using hpa),
        List.cons_append, ← ih hrest]
    · have hnone : rest.filter p = [] := by
        refine List.filter_eq_nil_iff.2 fun b hb hpb => hpa (hp a b (ha b hb) hpb)
      have hall : (rest.filter fun a => !p a) = rest := by
        have := ih hrest
        rwa [hnone, List.nil_append, eq_comm] at this
      rw [List.filter_cons_of_neg hpa, List.filter_cons_of_pos (by simpa using hpa), hnone, hall,
        List.nil_append]

/-- Records of one time keep in `newestFirst` the order in which they were listed. -/
theorem filter_newestFirst_of_same {p : Record → Bool} (records : List Record)
    (h : ∀ a b, p a = true → p b = true → a.time.utcWall = b.time.utcWall) :
    (newestFirst records).filter p = records.filter p := by
  rw [newestFirst, ← mergeSort_filter noOlder_trans noOlder_total p]
  refine List.mergeSort_of_pairwise (List.pairwise_of_forall_mem_list fun a ha b hb => ?_)
  rw [noOlder, decide_eq_true_eq]
  exact Int.le_of_eq (h b a (List.mem_filter.1 hb).2 (List.mem_filter.1 ha).2)

theorem filter_sameTime_newestFirst (a : Record) (records : List Record) :
    (newestFirst records).filter (sameTime a) = records.filter (sameTime a) := by
  refine filter_newestFirst_of_same records fun b c hb hc => ?_
  rw [sameTime, beq_iff_eq] at hb hc
  exact hb.symm.trans hc

/-- **The place of the record `a` in the order.**  Before it stand all that are newer, and those of
the same time that were listed before it. -/
theorem newestFirst_append_cons (before behind : List Record) (a : Record) :
    ∃ front back, newestFirst (before ++ a :: behind) = front ++ a :: back ∧
      front.length = (before ++ a :: behind).countP (newerThan a) + before.countP (sameTime a) := by
  let ordered := newestFirst (before ++ a :: behind)
  have hnew : ordered = ordered.filter (newerThan a) ++ ordered.filter fun b => !newerThan a b := by
    refine filter_append_filter_not (fun b c hbc hc => ?_) (pairwise_newestFirst _)
    simp only [newerThan, noOlder, decide_eq_true_eq] at *
    omega
  have hrest : (ordered.filter fun b => !newerThan a b) =
      (ordered.filter fun b => !newerThan a b).filter (sameTime a) ++
        (ordered.filter fun b => !newerThan a b).filter fun b => !sameTime a b := by
    refine filter_append_filter_not (R := fun b c => noOlder b c = true ∧ newerThan a b = false)
      (fun b c hbc hc => ?_) ?_
    · simp only [newerThan, noOlder, sameTime, decide_eq_true_eq, decide_eq_false_iff_not,
        beq_iff_eq] at *
      omega
    · refine ((pairwise_newestFirst _).filter _).imp_of_mem fun hb _ hbc => ⟨hbc, ?_⟩
      simpa using (List.mem_filter.1 hb).2
  have hsame : (ordered.filter fun b => !newerThan a b).filter (sameTime a) =
      before.filter (sameTime a) ++ a :: behind.filter (sameTime a) := by
    have hboth : (ordered.filter fun b => !newerThan a b).filter (sameTime a) =
        ordered.filter (sameTime a) := by
      rw [List.filter_filter]
      refine List.filter_congr fun b _ => ?_
      simp only [sameTime, newerThan, Bool.and_eq_left_iff_imp, beq_iff_eq, Bool.not_eq_true',
        decide_eq_false_iff_not]
      omega
    rw [hboth, filter_sameTime_newestFirst, List.filter_append, List.filter_cons_of_pos]
    simp [sameTime]
  refine ⟨ordered.filter (newerThan a) ++ before.filter (sameTime a),
    behind.filter (sameTime a) ++ (ordered.filter fun b => !newerThan a b).filter fun b =>
      !sameTime a b, ?_, ?_⟩
  · show ordered = _
    rw [hsame] at hrest
    refine hnew.trans ((congrArg (_ ++ ·) hrest).trans ?_)
    simp only [List.append_assoc, List.cons_append]
  · rw [List.length_append, List.countP_eq_length_filter, List.countP_eq_length_filter,
      ((newestFirst_perm _).filter _).length_eq]

/-- Records of different times have one order only, `newestFirst`, however they are listed. -/
theorem newestFirst_congr {records records' : List Record} (h : records.Perm records')
    (hd : (records.map (·.time.utcWall)).Nodup) : newestFirst records = newestFirst records' := by
  have hperm : (newestFirst records).Perm (newestFirst records') :=
    ((newestFirst_perm records).trans h).trans (newestFirst_perm records').symm
  refine hperm.eq_of_pairwise (fun a b ha hb hab hba => ?_) (pairwise_newestFirst records)
    (pairwise_newestFirst records')
  refine List.inj_on_of_nodup_map hd ((newestFirst_perm records).subset ha)
    ((newestFirst_perm records).subset (hperm.symm.subset hb)) ?_
  simp only [noOlder, decide_eq_true_eq] at hab hba
  omega

theorem newestFirst_eq_of_perm {ordered records : List Record} (h : ordered.Perm records)
    (ho : ordered.Pairwise fun a b => newerThan b a) : newestFirst records = ordered := by
  have htimes : (ordered.map (·.time.utcWall)).Nodup := by
    refine List.pairwise_map.2 (ho.imp fun {a b} hab => ?_)
    simp only [newerThan, decide_eq_true_eq] at hab
    omega
  rw [← newestFirst_congr h htimes]
  refine List.mergeSort_of_pairwise (ho.imp fun {a b} hab => ?_)
  simp only [newerThan, noOlder, decide_eq_true_eq] at *
  omega

/-- The times of `newestFirst` are the same, however the records are listed. -/
theorem map_utcWall_newestFirst {records records' : List Record} (h : records.Perm records') :
    (newestFirst records).map (·.time.utcWall) = (newestFirst records').map (·.time.utcWall) := by
  have hsorted : ∀ records, ((newestFirst records).map (·.time.utcWall)).Pairwise (· ≥ ·) :=
    fun records => List.pairwise_map.2 (pairwise_utcWall_newestFirst records)
  have hperm : (newestFirst records).Perm (newestFirst records') :=
    ((newestFirst_perm records).trans h).trans (newestFirst_perm records').symm
  exact (hperm.map _).eq_of_pairwise (fun _ _ _ _ hab hba => Int.le_antisymm hba hab)
    (hsorted records) (hsorted records')

/-- **What becomes of the record `a`, told by its place in the listing.** -/
theorem mem_toDelete_iff {keepLast : Int} {cutoff : Option DateTime} {before behind : List Record}
    {a : Record} (h : (before ++ a :: behind).Nodup) :
    a ∈ (partitionAt (before ++ a :: behind) keepLast cutoff).toDelete ↔
      isKept keepLast cutoff ((before ++ a :: behind).countP (newerThan a) +
        before.countP (sameTime a)) a = false := by
  obtain ⟨front, back, heq, hlen⟩ := newestFirst_append_cons before behind a
  rw [← hlen, toDelete_partitionAt, List.mem_map]
  have hnodup : (front ++ a :: back).Nodup := by
    rw [← heq]
    exact (newestFirst_perm _).nodup_iff.2 h
  have hplace : (front ++ a :: back)[front.length]? = some a := by
    rw [List.getElem?_append_right (Nat.le_refl _), Nat.sub_self, List.getElem?_cons_zero]
  rw [heq]
  constructor
  · rintro ⟨⟨b, i⟩, hb, rfl⟩
    rw [List.mem_filter, List.mem_zipIdx_iff_getElem?] at hb
    have hi : front.length = i :=
      (List.getElem?_inj (by simp) hnodup).1 (hplace.trans hb.1.symm)
    rw [hi]
    simpa using hb.2
  · intro hk
    refine ⟨(a, front.length), List.mem_filter.2 ⟨List.mem_zipIdx_iff_getElem?.2 hplace, ?_⟩, rfl⟩
    simpa using hk

/-! ## The border -/

/-- A list with places, cut at the place `k`. -/
theorem zipIdx_eq_append {α : Type} {l : List α} {k : Nat} (hk : k ≤ l.length) :
    l.zipIdx = (l.take k).zipIdx ++ (l.drop k).zipIdx k := by
  have h : (l.take k ++ l.drop k).zipIdx =
      (l.take k).zipIdx ++ (l.drop k).zipIdx (0 + (l.take k).length) := List.zipIdx_append
  rwa [List.take_append_drop, List.length_take_of_le hk, Nat.zero_add] at h

/-- What stands before the place `k`. -/
theorem filter_lt_zipIdx {α : Type} {l : List α} {k : Nat} (hk : k ≤ l.length) :
    l.zipIdx.filter (fun e => decide (e.2 < k)) = (l.take k).zipIdx := by
  have hlow : ∀ e ∈ (l.take k).zipIdx, decide (e.2 < k) = true := by
    intro e he
    have := (List.mem_zipIdx he).2.1
    rw [List.length_take_of_le hk] at this
    simpa using this
  have hhigh : ∀ e ∈ (l.drop k).zipIdx k, ¬decide (e.2 < k) = true := by
    intro e he
    have := (List.mem_zipIdx he).1
    simpa using this
  rw [zipIdx_eq_append hk, List.filter_append, List.filter_eq_self.2 hlow,
    List.filter_eq_nil_iff.2 hhigh, List.append_nil]

/-- What stands at the place `k` or behind it. -/
theorem filter_not_lt_zipIdx {α : Type} {l : List α} {k : Nat} (hk : k ≤ l.length) :
    l.zipIdx.filter (fun e => !decide (e.2 < k)) = (l.drop k).zipIdx k := by
  have hlow : ∀ e ∈ (l.take k).zipIdx, ¬(!decide (e.2 < k)) = true := by
    intro e he
    have := (List.mem_zipIdx he).2.1
    rw [List.length_take_of_le hk] at this
    simpa using this
  have hhigh : ∀ e ∈ (l.drop k).zipIdx k, (!decide (e.2 < k)) = true := by
    intro e he
    have := (List.mem_zipIdx he).1
    simpa using this
  rw [zipIdx_eq_append hk, List.filter_append, List.filter_eq_nil_iff.2 hlow,
    List.filter_eq_self.2 hhigh, List.nil_append]

section Border

variable {keepLast : Int} {cutoff : Option DateTime} {records : List Record}

/-- Whether the record `a` is newer than the `cutoff`, if there is one. -/
def isNewer (cutoff : Option DateTime) (a : Record) : Bool :=
  cutoff.any fun c => c.utcWall < a.time.utcWall

theorem isKept_eq (keepLast : Int) (cutoff : Option DateTime) (i : Nat) (a : Record) :
    isKept keepLast cutoff i a = (decide ((i : Int) < keepLast) || isNewer cutoff a) := by
  cases cutoff <;> rfl

/-- How many of the `records` are kept: as many as `keepLast` asks for, if there are so many, or all
that are newer than the `cutoff`, if these are more. -/
def keptCount (keepLast : Int) (cutoff : Option DateTime) (records : List Record) : Nat :=
  max (min keepLast.toNat records.length) (records.countP (isNewer cutoff))

theorem keptCount_le_length : keptCount keepLast cutoff records ≤ records.length :=
  Nat.max_le.2 ⟨Nat.min_le_right _ _, List.countP_le_length⟩

theorem keptCount_eq_of_perm {records' : List Record} (h : records.Perm records') :
    keptCount keepLast cutoff records = keptCount keepLast cutoff records' := by
  rw [keptCount, keptCount, h.length_eq, h.countP_eq]

theorem length_newestFirst (records : List Record) :
    (newestFirst records).length = records.length := (newestFirst_perm records).length_eq

theorem keptCount_le_length_newestFirst :
    keptCount keepLast cutoff records ≤ (newestFirst records).length := by
  rw [length_newestFirst]
  exact keptCount_le_length

/-- Those newer than the `cutoff` stand in front, so their number tells where they end. -/
theorem isNewer_iff_lt_countP {i : Nat} {a : Record} (h : (newestFirst records)[i]? = some a) :
    isNewer cutoff a = true ↔ i < records.countP (isNewer cutoff) := by
  have hsplit : newestFirst records = (newestFirst records).filter (isNewer cutoff) ++
      (newestFirst records).filter fun b => !isNewer cutoff b := by
    refine filter_append_filter_not (fun b c hbc hc => ?_) (pairwise_newestFirst records)
    simp only [isNewer, Option.any_eq_true, decide_eq_true_eq, noOlder] at *
    obtain ⟨t, ht, hlt⟩ := hc
    exact ⟨t, ht, by omega⟩
  have hlength : ((newestFirst records).filter (isNewer cutoff)).length =
      records.countP (isNewer cutoff) := by
    rw [← List.countP_eq_length_filter, (newestFirst_perm records).countP_eq]
  rw [hsplit] at h
  rcases Nat.lt_or_ge i (records.countP (isNewer cutoff)) with hi | hi
  · rw [List.getElem?_append_left (hlength.symm ▸ hi)] at h
    exact iff_of_true (List.mem_filter.1 (List.mem_of_getElem? h)).2 hi
  · rw [List.getElem?_append_right (hlength.symm ▸ hi)] at h
    have hnot := (List.mem_filter.1 (List.mem_of_getElem? h)).2
    exact iff_of_false (by simpa using hnot) (Nat.not_lt.2 hi)

/-- **The rule `isKept` keeps what stands before a border**, `keptCount`. -/
theorem isKept_eq_decide_lt {i : Nat} {a : Record} (h : (newestFirst records)[i]? = some a) :
    isKept keepLast cutoff i a = decide (i < keptCount keepLast cutoff records) := by
  have hi : i < records.length := by
    rw [← length_newestFirst]
    exact (List.getElem?_eq_some_iff.1 h).1
  rw [isKept_eq, Bool.eq_iff_iff, Bool.or_eq_true, isNewer_iff_lt_countP h, decide_eq_true_eq,
    decide_eq_true_eq, keptCount]
  omega

theorem filter_isKept (records : List Record) (keepLast : Int) (cutoff : Option DateTime) :
    ((newestFirst records).zipIdx.filter fun e => isKept keepLast cutoff e.2 e.1) =
      ((newestFirst records).take (keptCount keepLast cutoff records)).zipIdx := by
  rw [← filter_lt_zipIdx keptCount_le_length_newestFirst]
  exact List.filter_congr fun e he => isKept_eq_decide_lt (List.mem_zipIdx_iff_getElem?.1 he)

theorem filter_not_isKept (records : List Record) (keepLast : Int) (cutoff : Option DateTime) :
    ((newestFirst records).zipIdx.filter fun e => !isKept keepLast cutoff e.2 e.1) =
      ((newestFirst records).drop (keptCount keepLast cutoff records)).zipIdx
        (keptCount keepLast cutoff records) := by
  rw [← filter_not_lt_zipIdx keptCount_le_length_newestFirst]
  refine List.filter_congr fun e he => congrArg (!·) ?_
  exact isKept_eq_decide_lt (List.mem_zipIdx_iff_getElem?.1 he)

/-- The places of `newestFirst`, those that are kept before those that are not. -/
theorem zipIdx_newestFirst (records : List Record) (keepLast : Int) (cutoff : Option DateTime) :
    (newestFirst records).zipIdx =
      (newestFirst records).zipIdx.filter (fun e => isKept keepLast cutoff e.2 e.1) ++
        (newestFirst records).zipIdx.filter fun e => !isKept keepLast cutoff e.2 e.1 := by
  rw [filter_isKept, filter_not_isKept, ← zipIdx_eq_append keptCount_le_length_newestFirst]

theorem keep_partitionAt (records : List Record) (keepLast : Int) (cutoff : Option DateTime) :
    (partitionAt records keepLast cutoff).keep =
      List.range (keptCount keepLast cutoff records) := by
  rw [partitionAt, keptPlaces, filter_isKept, List.zipIdx_map_snd,
    List.length_take_of_le keptCount_le_length_newestFirst, List.range_eq_range']

theorem mem_keep_partitionAt {i : Nat} :
    i ∈ (partitionAt records keepLast cutoff).keep ↔ i < keptCount keepLast cutoff records := by
  rw [keep_partitionAt, List.mem_range]

/-- **What is `kept` stands in front**, as many records as `keptCount` says. -/
theorem kept_eq_take (records : List Record) (keepLast : Int) (cutoff : Option DateTime) :
    (partitionAt records keepLast cutoff).kept =
      (newestFirst records).take (keptCount keepLast cutoff records) := by
  rw [kept_partitionAt, filter_isKept, List.zipIdx_map_fst]

/-- **What is in `toDelete` stands behind `keptCount` records.** -/
theorem toDelete_eq_drop (records : List Record) (keepLast : Int) (cutoff : Option DateTime) :
    (partitionAt records keepLast cutoff).toDelete =
      (newestFirst records).drop (keptCount keepLast cutoff records) := by
  rw [toDelete_partitionAt, filter_not_isKept, List.zipIdx_map_fst]

theorem length_kept (records : List Record) (keepLast : Int) (cutoff : Option DateTime) :
    (partitionAt records keepLast cutoff).kept.length = keptCount keepLast cutoff records := by
  rw [kept_eq_take, List.length_take_of_le keptCount_le_length_newestFirst]

theorem kept_append_toDelete (records : List Record) (keepLast : Int) (cutoff : Option DateTime) :
    (partitionAt records keepLast cutoff).kept ++ (partitionAt records keepLast cutoff).toDelete =
      newestFirst records := by
  rw [kept_eq_take, toDelete_eq_drop, List.take_append_drop]

/-- Nothing `toDelete` is newer than the `cutoff`. -/
theorem countP_isNewer_toDelete (records : List Record) (keepLast : Int)
    (cutoff : Option DateTime) :
    (partitionAt records keepLast cutoff).toDelete.countP (isNewer cutoff) = 0 := by
  rw [List.countP_eq_zero, toDelete_eq_drop]
  intro a ha hnew
  obtain ⟨i, hi⟩ := List.mem_iff_getElem?.1 ha
  rw [List.getElem?_drop] at hi
  have hlow := (isNewer_iff_lt_countP hi).1 hnew
  rw [keptCount] at hlow
  omega

/-- Where nothing is kept for its age, the first `n` records are kept and the others deleted. -/
theorem toDelete_of_no_cutoff (records : List Record) (n : Nat) :
    (partitionAt records n none).toDelete = (newestFirst records).drop n := by
  have hcount : keptCount n none records = min n (newestFirst records).length := by
    have hnone : records.countP (isNewer none) = 0 := List.countP_eq_zero.2 fun _ _ h => nomatch h
    rw [keptCount, Int.toNat_natCast, length_newestFirst, hnone, Nat.max_eq_left (Nat.zero_le _)]
  rw [toDelete_eq_drop, hcount]
  rcases Nat.le_total n (newestFirst records).length with h | h
  · rw [Nat.min_eq_left h]
  · rw [Nat.min_eq_right h, List.drop_length, List.drop_eq_nil_of_le h]

end Border

/-! ## The records of objects -/

/-- The record of the object `o`, if the store reports a time for it that the clock can show. -/
def StoredObject.record? (o : StoredObject) : Option Record := do
  let t ← o.time
  let t ← t.toUtcSeconds?
  return ⟨o.key, t, o.size.getD 0⟩

theorem StoredObject.record?_eq_some {o : StoredObject} {a : Record} (h : o.record? = some a) :
    a.key = o.key ∧ ∃ t, o.time = some t ∧ t.toUtcSeconds? = some a.time := by
  rw [record?] at h
  rcases ht : o.time with _ | t
  · rw [ht] at h
    cases h
  · rcases hu : t.toUtcSeconds? with _ | u
    · rw [ht, Option.bind_eq_bind, Option.bind_some, hu] at h
      cases h
    · rw [ht, Option.bind_eq_bind, Option.bind_some, hu] at h
      cases h
      exact ⟨rfl, t, rfl, hu⟩

theorem recordOf_eq_ok {o : StoredObject} {a : Option Record} (h : recordOf o = .ok a) :
    a = o.record? := by
  rw [recordOf] at h
  rw [StoredObject.record?]
  rcases ht : o.time with _ | t
  · rw [ht] at h
    exact (Except.ok.inj h).symm
  · rw [ht] at h
    dsimp only at h
    rcases hu : t.toUtcSeconds? with _ | u
    · rw [hu] at h
      cases h
    · rw [hu] at h
      rw [Option.bind_eq_bind, Option.bind_some, hu]
      exact (Except.ok.inj h).symm

/-- **The records of a listing are those of its objects, one by one**, by `StoredObject.record?`. -/
theorem recordsOf_eq_ok {os : Objects} {records : List Record} (h : recordsOf os = .ok records) :
    records = os.filterMap StoredObject.record? := by
  induction os generalizing records with
  | nil => exact (Except.ok.inj h).symm
  | cons o os ih =>
    rw [recordsOf_cons] at h
    rcases ho : recordOf o with f | a
    · rw [ho] at h
      cases h
    rcases hos : recordsOf os with f | more
    · rw [ho, hos] at h
      cases h
    rw [ho, hos] at h
    rw [← Except.ok.inj h, ih hos, recordOf_eq_ok ho, List.filterMap_cons]
    rcases o.record? with _ | a <;> rfl

/-- The UTC clock can show the times of all objects of `os` that have one. -/
def Objects.Datable (os : Objects) : Prop :=
  ∀ o ∈ os, ∀ t, o.time = some t → ∃ u, t.toUtcSeconds? = some u

theorem Objects.datable_nil : Datable [] := fun _ ho => absurd ho List.not_mem_nil

theorem Objects.Datable.below {os : Objects} (h : os.Datable) (beginning : String) :
    Datable (os.below beginning) := fun o ho => h o (List.mem_filter.1 ho).1

/-- Whether the times can be shown, by `Datable`, does not depend on the order of the listing. -/
theorem World.datable_listing {w : World} {beginning : String} :
    (w.listing beginning).Datable ↔ (w.objects.below beginning).Datable :=
  forall_congr' fun _ => imp_congr_left (w.listing_perm beginning).mem_iff

/-- Objects that are `Datable` have records. -/
theorem recordsOf_of_datable {os : Objects} (h : os.Datable) :
    recordsOf os = .ok (os.filterMap StoredObject.record?) := by
  have hok : ∃ records, recordsOf os = .ok records := by
    induction os with
    | nil => exact ⟨[], rfl⟩
    | cons o os ih =>
      obtain ⟨more, hos⟩ := ih fun p hp => h p (List.mem_cons_of_mem o hp)
      have ho : ∃ a, recordOf o = .ok a := by
        rw [recordOf]
        rcases ht : o.time with _ | t
        · exact ⟨none, rfl⟩
        · obtain ⟨u, hu⟩ := h o List.mem_cons_self t ht
          exact ⟨some ⟨o.key, u, o.size.getD 0⟩, by simp [hu]⟩
      obtain ⟨a, ho⟩ := ho
      exact ⟨a.toList ++ more, by rw [recordsOf_cons, ho, hos]; rfl⟩
  obtain ⟨records, hr⟩ := hok
  rw [hr, recordsOf_eq_ok hr]

theorem mem_records {os : Objects} {records : List Record} (h : recordsOf os = .ok records)
    {a : Record} (ha : a ∈ records) :
    ∃ o ∈ os, a.key = o.key ∧ ∃ t, o.time = some t ∧ t.toUtcSeconds? = some a.time := by
  rw [recordsOf_eq_ok h] at ha
  obtain ⟨o, ho, hoa⟩ := List.mem_filterMap.1 ha
  exact ⟨o, ho, StoredObject.record?_eq_some hoa⟩

/-- Objects with keys that are `Distinct` have records with distinct keys. -/
theorem nodup_keys_of_recordsOf {os : Objects} {records : List Record}
    (h : recordsOf os = .ok records) (hd : os.Distinct) : (records.map (·.key)).Nodup := by
  refine List.Nodup.sublist ?_ hd
  rw [recordsOf_eq_ok h]
  clear h hd
  induction os with
  | nil => exact List.Sublist.refl _
  | cons o os ih =>
    rw [List.filterMap_cons]
    rcases ho : o.record? with _ | a
    · exact ih.trans (List.sublist_cons_self _ _)
    · rw [List.map_cons, List.map_cons, (StoredObject.record?_eq_some ho).1]
      exact ih.cons_cons _

/-! ## The partition of a listing -/

/-- A `plan` is made by the rule, `partitionAt`, with the cutoff of the policy. -/
theorem partition_eq_ok {records : List Record} {keepLast : Int} {keepDuration : Option Duration}
    {now : DateTime} {plan : Partition}
    (h : partition records keepLast keepDuration now = .ok plan) :
    ∃ cutoff, cutoffOf keepDuration now = .ok cutoff ∧
      plan = partitionAt records keepLast cutoff := by
  rw [partition] at h
  dsimp only at h
  split at h
  · cases h
  rcases hc : cutoffOf keepDuration now with f | cutoff
  · rw [hc] at h
    cases h
  rw [hc] at h
  change (if _ then _ else _) = _ at h
  split at h
  · cases h
  · exact ⟨cutoff, rfl, (Except.ok.inj h).symm⟩

/-- Times whose offsets are known are `comparable`. -/
theorem comparable_of_isSome {ts : List DateTime} (h : ∀ t ∈ ts, t.offset.isSome) :
    comparable ts = true := by
  rw [comparable, Bool.or_eq_true, List.all_eq_true]
  exact .inl h

/-- Records and a clock whose offsets are known can be told apart by `partition`. -/
theorem partition_of_isSome {records : List Record} (keepLast : Int)
    (keepDuration : Option Duration) {now : DateTime} {cutoff : Option DateTime}
    (h : ∀ a ∈ records, a.time.offset.isSome) (hn : now.offset.isSome)
    (hc : cutoffOf keepDuration now = .ok cutoff) :
    partition records keepLast keepDuration now = .ok (partitionAt records keepLast cutoff) := by
  have htimes : ∀ t ∈ records.map (·.time), t.offset.isSome := List.forall_mem_map.2 h
  have hcomp : comparable (now :: records.map (·.time)) = true :=
    comparable_of_isSome (List.forall_mem_cons.2 ⟨hn, htimes⟩)
  rw [partition]
  dsimp only
  rw [comparable_of_isSome htimes, hc, hcomp, if_neg (by simp)]
  exact if_neg (by simp)

theorem DateTime.toUtcSeconds?_eq_some {t u : DateTime} (h : t.toUtcSeconds? = some u) :
    0 ≤ t.utcWall ∧ t.utcWall < wallLimit ∧
      u = ⟨t.utcWall - t.utcWall % microsPerSecond, some 0⟩ := by
  obtain ⟨hdated, rfl⟩ := toUtcSeconds?_eq_some_iff.1 h
  exact ⟨hdated.1, hdated.2, t.atSecond_eq⟩

theorem isSome_offset_of_recordsOf {os : Objects} {records : List Record}
    (h : recordsOf os = .ok records) : ∀ a ∈ records, a.time.offset.isSome := by
  intro a ha
  obtain ⟨o, -, -, t, -, ht⟩ := mem_records h ha
  rw [(DateTime.toUtcSeconds?_eq_some ht).2.2]
  rfl

/-- The clock `r` shows a point in time of the UTC clock. -/
theorem DateTime.ofReading_eq_ok {r : Reading} {t : DateTime} (h : ofReading r = .ok t) :
    0 ≤ t.wall ∧ t.wall < wallLimit ∧ t.offset = some 0 := by
  rw [ofReading] at h
  rcases hs : r.split with f | ⟨seconds, micros⟩
  · rw [hs] at h
    cases h
  rw [hs] at h
  change DateTime.ofUnix seconds micros = .ok t at h
  rw [ofUnix] at h
  split at h
  · cases h
  split at h
  · cases h
  split at h
  · rename_i u hu
    rw [ofUnixMicros?, ofWall?] at hu
    split at hu
    · rename_i hw
      cases hu
      cases h
      exact ⟨hw.1, hw.2, rfl⟩
    · cases hu
  · cases h

/-- The clock `r` shows a time that has a second. -/
theorem exists_toUtcSeconds? {r : Reading} {now : DateTime} (h : DateTime.ofReading r = .ok now) :
    ∃ u, now.toUtcSeconds? = some u := by
  obtain ⟨hlow, hhigh, hoff⟩ := DateTime.ofReading_eq_ok h
  have hwall : now.utcWall = now.wall := by
    rw [DateTime.utcWall, hoff, Option.getD_some, Int.sub_zero]
  rw [← hwall] at hlow hhigh
  exact ⟨_, DateTime.toUtcSeconds?_eq_some_iff.2 ⟨⟨hlow, hhigh⟩, rfl⟩⟩

/-- What is stored now, by `put`, has a time that can be told later. -/
theorem Objects.Datable.put {os : Objects} (h : os.Datable) {r : Reading} {now : DateTime}
    (hn : DateTime.ofReading r = .ok now) (key : String) (content : ByteArray) :
    Datable (Objects.put (backupObject key content now) os) := by
  intro o ho t ht
  rcases Objects.mem_put ho with rfl | ho
  · cases ht
    exact exists_toUtcSeconds? hn
  · exact h o ho t ht

/-- The record of a backup with the `content`, stored under `key` in the second `u`. -/
def newRecord (key : String) (content : ByteArray) (u : DateTime) : Record :=
  ⟨key, u, content.size⟩

theorem record?_backupObject {key : String} {content : ByteArray} {now u : DateTime}
    (hu : now.toUtcSeconds? = some u) :
    (backupObject key content now).record? = some (newRecord key content u) := by
  rw [StoredObject.record?, backupObject]
  simp only [Option.bind_eq_bind, Option.bind_some, hu, Option.getD_some]
  rfl

end DumpKeeper
