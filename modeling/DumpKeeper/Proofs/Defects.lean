import DumpKeeper.Proofs.Loading

/-!
# Configurations that are neither loaded nor refused

A configuration that cannot be used is refused with a reason.  There are exceptions: some values
break what converts them before there is a reason to give, and what escapes then is not a refusal.
This file tells for which files and variables that is so.

* `Verdict`, `verdictOf` — whether a computation answers, refuses or breaks, and nothing else about
  it.
* `Demand` — what is asked of a value: that it is a count, say, or a locator.
  `Demand.Breaks d v` says in terms of the value that it breaks the demand, and
  `Demand.verdict_eq_broken_iff` that it is so exactly then.
* `Look` — a value that is looked at under a demand, or a check that can only refuse.
  `Config.fileLooks` and `Config.variableLooks` are the looks at a file and at the variables, in the
  order in which they are taken; the first one that is not accepted decides.
* `Config.Breaks` — a file and variables that break loading, and `Config.broken_iff`.
-/

set_option autoImplicit false

namespace DumpKeeper

open Conversion

/-! ## Verdicts -/

/-- How a computation ends that may be refused. -/
inductive Verdict where
  /-- It has an answer. -/
  | fine
  /-- It is refused with a reason. -/
  | refused
  /-- It breaks, and there is no reason to give. -/
  | broken
  deriving DecidableEq, Repr

/-- The verdict on two things in a row: the second one is not come to unless the first is `fine`. -/
def Verdict.andThen : Verdict → Verdict → Verdict
  | .fine, w => w
  | v, _ => v

@[simp] theorem Verdict.fine_andThen (v : Verdict) : Verdict.fine.andThen v = v := rfl

@[simp] theorem Verdict.andThen_fine (v : Verdict) : v.andThen .fine = v := by cases v <;> rfl

theorem Verdict.andThen_assoc (u v w : Verdict) :
    (u.andThen v).andThen w = u.andThen (v.andThen w) := by
  cases u <;> rfl

variable {α β : Type}

/-- How a computation that may fail with a `ConfigFailure` ends. -/
def verdictOf : Except ConfigFailure α → Verdict
  | .ok _ => .fine
  | .error (.refused _) => .refused
  | .error (.broken _) => .broken

@[simp] theorem verdictOf_ok (a : α) : verdictOf (.ok a) = .fine := rfl

@[simp] theorem verdictOf_pure (a : α) : verdictOf (pure a) = .fine := rfl

@[simp] theorem verdictOf_refuse (e : ConfigError) : verdictOf (refuse e : Except _ α) = .refused :=
  rfl

theorem verdictOf_eq_broken_iff {e : Except ConfigFailure α} :
    verdictOf e = .broken ↔ ∃ d, e = .error (.broken d) := by
  rcases e with (r | d) | a
  · exact iff_of_false nofun nofun
  · exact iff_of_true rfl ⟨d, rfl⟩
  · exact iff_of_false nofun nofun

theorem verdictOf_eq_refused_iff {e : Except ConfigFailure α} :
    verdictOf e = .refused ↔ ∃ r, e = .error (.refused r) := by
  rcases e with (r | d) | a
  · exact iff_of_true rfl ⟨r, rfl⟩
  · exact iff_of_false nofun nofun
  · exact iff_of_false nofun nofun

/-- **The verdict on `e >>= f`**, where that on `f a` is the same `v` whatever `e` answers. -/
theorem verdictOf_bind {e : Except ConfigFailure α} {f : α → Except ConfigFailure β} {v : Verdict}
    (h : ∀ a, e = .ok a → verdictOf (f a) = v) :
    verdictOf (e >>= f) = (verdictOf e).andThen v := by
  rcases e with (r | d) | a
  · rfl
  · rfl
  · exact h a rfl

theorem verdictOf_bind_eq_broken_iff_or {e : Except ConfigFailure α}
    {f : α → Except ConfigFailure β} :
    verdictOf (e >>= f) = .broken ↔
      verdictOf e = .broken ∨ ∃ a, e = .ok a ∧ verdictOf (f a) = .broken := by
  rcases e with (r | d) | a
  · exact iff_of_false nofun fun h => h.elim nofun fun ⟨_, h, _⟩ => nomatch h
  · exact iff_of_true rfl (.inl rfl)
  · exact ⟨fun h => .inr ⟨a, rfl, h⟩, fun h => h.elim nofun fun ⟨_, ha, h⟩ => Except.ok.inj ha ▸ h⟩

/-- If `e` is fine, it makes no difference to what is behind it. -/
theorem verdictOf_bind_fine {e : Except ConfigFailure α} {f : α → Except ConfigFailure β}
    {v : Verdict} (he : verdictOf e = .fine) (hf : ∀ a, verdictOf (f a) = v) :
    verdictOf (e >>= f) = v := by
  rw [verdictOf_bind fun a _ => hf a, he, Verdict.fine_andThen]

theorem verdictOf_bind_ne_broken {e : Except ConfigFailure α} {f : α → Except ConfigFailure β}
    (he : verdictOf e = .fine) (hf : ∀ a, verdictOf (f a) ≠ .broken) :
    verdictOf (e >>= f) ≠ .broken := by
  rcases e with (r | d) | a
  · cases he
  · cases he
  · exact hf a

/-- What `f` does with the answer of `e` does not matter as long as it does not break. -/
theorem verdictOf_bind_eq_broken_iff {e : Except ConfigFailure α} {f : α → Except ConfigFailure β}
    (h : ∀ a, e = .ok a → verdictOf (f a) ≠ .broken) :
    verdictOf (e >>= f) = .broken ↔ verdictOf e = .broken := by
  rcases e with (r | d) | a
  · exact Iff.rfl
  · exact Iff.rfl
  · exact iff_of_false (h a rfl) nofun

theorem verdictOf_map (e : Except ConfigFailure α) (f : α → β) :
    verdictOf (e.map f) = verdictOf e := by
  rcases e with (r | d) | a <;> rfl

/-- The verdict of a check that refuses what does not pass. -/
def Verdict.ofBool (b : Bool) : Verdict := if b then .fine else .refused

/-- If `e` never breaks, its verdict is told by whether it has an answer. -/
theorem verdictOf_eq_ofBool {e : Except ConfigFailure α} (h : verdictOf e ≠ .broken) :
    verdictOf e = .ofBool e.isOk := by
  rcases e with (r | d) | a
  · rfl
  · exact absurd rfl h
  · rfl

/-! ## Demands -/

/-- What is asked of a value by those who read it. -/
inductive Demand where
  | text
  | path
  | truth
  | count
  | port
  | duration
  | interval
  | locator
  deriving DecidableEq, Repr

namespace Demand

/-- Whether the value `v` meets a demand; `name` is what it is reported under. -/
def verdict (name : String) (v : Value) : Demand → Verdict
  | .text => verdictOf (shown v Value.asText)
  | .path => verdictOf (toPath v)
  | .truth => verdictOf (toTruth name v)
  | .count => verdictOf (toCount name v)
  | .port => verdictOf (toPort name v)
  | .duration => verdictOf (toDuration name v)
  | .interval => verdictOf (toInterval name v)
  | .locator => verdictOf (StorageTarget.ofLocator v)

/-- `v` is a number that is infinite, or a value that cannot be shown to refuse it: a list, say,
with a number of too many digits in it.  Such a number by itself is a count. -/
def BreaksCount (v : Value) : Prop :=
  (∃ x, v = .float x ∧ x.isFinite = false ∧ x.isNaN = false) ∨
    (v.isShowable = false ∧ ∀ n, v ≠ .int n)

/-- `v` cannot be shown, or it spells a duration out of range or with too many digits. -/
def BreaksDuration (v : Value) : Prop :=
  v.isShowable = false ∨
    (v ≠ .null ∧ (Duration.read v.quoted v.asText = .error .outOfRange ∨
      Duration.read v.quoted v.asText = .error .tooManyDigits))

/-- **The value `v` breaks a demand**: it can neither be converted nor refused. -/
def Breaks (v : Value) : Demand → Prop
  | .text => v.isShowable = false
  | .path => ∀ s, v ≠ .text s
  | .truth => v.isShowable = false
  | .count => BreaksCount v
  | .port => BreaksCount v
  | .duration => BreaksDuration v
  | .interval => BreaksDuration v
  | .locator => v.isShowable = false ∨ ∃ f, Url.split v.asText = .error f

variable {v : Value} {name : String}

theorem verdictOf_shown_eq_broken_iff {f : Value → String} :
    verdictOf (shown v f) = .broken ↔ v.isShowable = false := by
  rw [shown]
  cases v.isShowable
  · exact iff_of_true rfl rfl
  · exact iff_of_false nofun nofun

theorem verdictOf_refuseShown_eq_broken_iff {e : String → ConfigError} :
    verdictOf (refuseShown v e : Except _ α) = .broken ↔ v.isShowable = false := by
  rw [refuseShown, verdictOf_bind_eq_broken_iff fun _ _ => Verdict.noConfusion,
    verdictOf_shown_eq_broken_iff]

/-- What `toTruth` reads is a text that can be shown to refuse it. -/
theorem verdictOf_toTruth_eq_broken_iff :
    verdictOf (toTruth name v) = .broken ↔ v.isShowable = false := by
  rw [toTruth.eq_def]
  split
  · exact iff_of_false nofun nofun
  · rename_i hv
    rw [← verdictOf_shown_eq_broken_iff (f := Value.asText)]
    refine verdictOf_bind_eq_broken_iff fun s hs => ?_
    split
    · exact nofun
    · rw [Ne, verdictOf_refuseShown_eq_broken_iff, ← verdictOf_shown_eq_broken_iff, hs]
      exact nofun

theorem breaksCount_iff (hfloat : ∀ x, v ≠ .float x) (hint : ∀ n, v ≠ .int n) :
    BreaksCount v ↔ v.isShowable = false :=
  ⟨fun h => h.elim (fun ⟨x, hx, _⟩ => absurd hx (hfloat x)) And.left, fun h => .inr ⟨h, hint⟩⟩

theorem breaksCount_float_iff {x : Float} :
    BreaksCount (.float x) ↔ x.isFinite = false ∧ x.isNaN = false := by
  refine ⟨?_, fun h => .inl ⟨x, rfl, h⟩⟩
  rintro (⟨_, ⟨⟩, h⟩ | ⟨h, -⟩)
  · exact h
  · cases h

theorem verdictOf_wholeNumber_float_eq_broken_iff {x : Float} :
    verdictOf (wholeNumber name (.float x)) = .broken ↔ BreaksCount (.float x) := by
  rw [breaksCount_float_iff, wholeNumber.eq_def]
  dsimp only
  rw [Binary64.truncate?]
  cases x.isFinite
  · cases x.isNaN
    · exact iff_of_true rfl ⟨rfl, rfl⟩
    · exact iff_of_false nofun nofun
  · exact iff_of_false nofun nofun

/-- The number `n` that is read off a text or off bytes is refused at worst. -/
theorem verdictOf_reading_ne_broken (hv : v.isShowable = true) (n : Option Int) :
    verdictOf (match n with
      | some n => .ok n
      | none => refuseShown v (.badCount name) : Except ConfigFailure Int) ≠ .broken := by
  cases n with
  | none => rw [Ne, verdictOf_refuseShown_eq_broken_iff, hv]; exact nofun
  | some n => exact nofun

theorem verdictOf_wholeNumber_eq_broken_iff :
    verdictOf (wholeNumber name v) = .broken ↔ BreaksCount v := by
  cases v with
  | float x => exact verdictOf_wholeNumber_float_eq_broken_iff
  | int n => exact iff_of_false nofun fun h => h.elim nofun fun h => h.2 n rfl
  | bool b => exact iff_of_false nofun fun h => h.elim nofun nofun
  | text s => exact iff_of_false (verdictOf_reading_ne_broken rfl _) fun h => h.elim nofun nofun
  | bytes bs => exact iff_of_false (verdictOf_reading_ne_broken rfl _) fun h => h.elim nofun nofun
  | _ =>
    exact verdictOf_refuseShown_eq_broken_iff.trans
      (breaksCount_iff (fun _ => Value.noConfusion) fun _ => Value.noConfusion).symm

theorem verdictOf_toCount : verdictOf (toCount name v) = .broken ↔ BreaksCount v := by
  rw [toCount, ← @verdictOf_wholeNumber_eq_broken_iff v name]
  refine verdictOf_bind_eq_broken_iff fun n _ => ?_
  split <;> rintro ⟨⟩

theorem verdictOf_toPort : verdictOf (toPort name v) = .broken ↔ BreaksCount v := by
  rw [toPort, ← @verdictOf_toCount v name]
  refine verdictOf_bind_eq_broken_iff fun n _ => ?_
  split <;> rintro ⟨⟩

theorem verdictOf_toPath : verdictOf (toPath v) = .broken ↔ ∀ s, v ≠ .text s := by
  cases v with
  | text s => exact iff_of_false nofun fun h => h s rfl
  | _ => exact iff_of_true rfl nofun

theorem verdictOf_toDuration_eq_broken_iff_readDuration :
    verdictOf (toDuration name v) = .broken ↔
      readDuration v = .error .outOfRange ∨ readDuration v = .error .tooManyDigits := by
  rw [toDuration]
  generalize readDuration v = d
  rcases d with (_ | _ | _ | _ | _) | d
  all_goals simp [verdictOf, refuse]

theorem verdictOf_toDuration : verdictOf (toDuration name v) = .broken ↔ BreaksDuration v := by
  rw [verdictOf_toDuration_eq_broken_iff_readDuration, BreaksDuration]
  by_cases hnull : v = .null
  · subst hnull
    exact iff_of_false (by simp [readDuration]) (by simp [Value.isShowable])
  have hread : readDuration v =
      if v.isShowable then Duration.read v.quoted v.asText else .error .tooManyDigits := by
    cases v <;> first | rfl | exact absurd rfl hnull
  rw [hread]
  cases v.isShowable
  · exact iff_of_true (.inr rfl) (.inl rfl)
  · simp [hnull]

theorem verdictOf_toInterval : verdictOf (toInterval name v) = .broken ↔ BreaksDuration v := by
  rw [toInterval, ← @verdictOf_toDuration v name]
  refine verdictOf_bind_eq_broken_iff fun n _ => ?_
  split <;> exact nofun

theorem verdictOf_ofLocator :
    verdictOf (StorageTarget.ofLocator v) = .broken ↔
      v.isShowable = false ∨ ∃ f, Url.split v.asText = .error f := by
  rw [StorageTarget.ofLocator, shown]
  cases v.isShowable
  · exact iff_of_true rfl (.inl rfl)
  rw [or_iff_right nofun]
  show verdictOf (Except.bind (.ok v.asText) _) = _ ↔ _
  rw [Except.bind]
  generalize Url.split v.asText = result
  rcases result with f | url
  · exact iff_of_true rfl ⟨f, rfl⟩
  · refine iff_of_false ?_ nofun
    dsimp only
    split
    · exact nofun
    split
    · exact nofun
    split
    · exact nofun
    · exact nofun

/-- **A value breaks the demand `d` just when `Demand.Breaks` says so.** -/
theorem verdict_eq_broken_iff (d : Demand) : d.verdict name v = .broken ↔ d.Breaks v := by
  cases d with
  | text => exact verdictOf_shown_eq_broken_iff
  | path => exact verdictOf_toPath
  | truth => exact verdictOf_toTruth_eq_broken_iff
  | count => exact verdictOf_toCount
  | port => exact verdictOf_toPort
  | duration => exact verdictOf_toDuration
  | interval => exact verdictOf_toInterval
  | locator => exact verdictOf_ofLocator

end Demand

/-! ## Looks -/

/-- A value looked at under a demand, by the name that it is reported under, or a check that can
only refuse. -/
inductive Look where
  | value (d : Demand) (name : String) (v : Value)
  | check (passes : Bool)

namespace Look

/-- What is seen at a look. -/
def verdict : Look → Verdict
  | value d name v => d.verdict name v
  | check passes => .ofBool passes

/-- The look is at a value that breaks its demand. -/
def Breaks : Look → Prop
  | value d _ v => d.Breaks v
  | check _ => False

theorem verdict_eq_broken_iff (l : Look) : l.verdict = .broken ↔ l.Breaks := by
  cases l with
  | value d name v => exact d.verdict_eq_broken_iff
  | check passes => cases passes <;> exact iff_of_false nofun id

end Look

/-- What is seen at `looks` one after the other: nothing is looked at behind what is not `fine`. -/
def Verdict.ofLooks (looks : List Look) : Verdict :=
  looks.foldr (fun l v => l.verdict.andThen v) .fine

/-- **The first of `looks` that is not accepted is at a value that breaks.** -/
def Breaking (looks : List Look) : Prop :=
  ∃ before l behind, looks = before ++ l :: behind ∧ (∀ m ∈ before, m.verdict = .fine) ∧ l.Breaks

namespace Verdict

open Demand

variable {es : Entries} {env : Environment}

theorem ofLooks_append (a b : List Look) :
    ofLooks (a ++ b) = (ofLooks a).andThen (ofLooks b) := by
  induction a with
  | nil => rfl
  | cons l a ih =>
    show l.verdict.andThen (ofLooks (a ++ b)) = _
    rw [ih, ← andThen_assoc]
    rfl

theorem ofLooks_eq_broken_iff {looks : List Look} :
    ofLooks looks = .broken ↔ Breaking looks := by
  induction looks with
  | nil => exact iff_of_false nofun fun ⟨before, l, behind, h, _⟩ => by cases before <;> cases h
  | cons m rest ih =>
    have hstep : ofLooks (m :: rest) = m.verdict.andThen (ofLooks rest) := rfl
    rw [hstep]
    constructor
    · intro h
      cases hm : m.verdict with
      | fine =>
        rw [hm, fine_andThen, ih] at h
        obtain ⟨before, l, behind, rfl, hbefore, hl⟩ := h
        exact ⟨m :: before, l, behind, rfl, List.forall_mem_cons.2 ⟨hm, hbefore⟩, hl⟩
      | refused => rw [hm] at h; cases h
      | broken => exact ⟨[], m, rest, rfl, nofun, m.verdict_eq_broken_iff.1 hm⟩
    · rintro ⟨before, l, behind, h, hbefore, hl⟩
      cases before with
      | nil =>
        cases h
        rw [m.verdict_eq_broken_iff.2 hl]
        rfl
      | cons b before =>
        cases h
        obtain ⟨hm, hbefore⟩ := List.forall_mem_cons.1 hbefore
        rw [hm, fine_andThen]
        exact ih.2 ⟨before, l, behind, rfl, hbefore, hl⟩

/-- The looks `a` that are taken by `e` before `f` does more. -/
theorem broken_bind_iff {e : Except ConfigFailure α} {f : α → Except ConfigFailure β}
    {a b : List Look} (he : verdictOf e = ofLooks a)
    (hf : ∀ x, e = .ok x → (verdictOf (f x) = .broken ↔ ofLooks b = .broken)) :
    verdictOf (e >>= f) = .broken ↔ ofLooks (a ++ b) = .broken := by
  rw [ofLooks_append, ← he]
  rcases e with (r | d) | x
  · exact iff_of_false nofun nofun
  · exact iff_of_true rfl rfl
  · exact hf x rfl

/-- The looks `a` of `e`, and `b` of `f` behind them. -/
theorem verdictOf_looks_bind {e : Except ConfigFailure α} {f : α → Except ConfigFailure β}
    {a b : List Look} (he : verdictOf e = ofLooks a) (hf : ∀ x, verdictOf (f x) = ofLooks b) :
    verdictOf (e >>= f) = ofLooks (a ++ b) := by
  rw [verdictOf_bind fun x _ => hf x, he, ofLooks_append]

/-- The last looks, `a`. -/
theorem verdictOf_looks_pure {e : Except ConfigFailure α} {g : α → β} {a : List Look}
    (he : verdictOf e = ofLooks a) : verdictOf (do return g (← e)) = ofLooks a := by
  refine Eq.trans (verdictOf_bind fun _ _ => rfl) ?_
  rw [he, andThen_fine]

/-- The looks `a` of `e`, behind which nothing breaks. -/
theorem broken_last_iff {e : Except ConfigFailure α} {f : α → Except ConfigFailure β}
    {a : List Look} (he : verdictOf e = ofLooks a) (hf : ∀ x, verdictOf (f x) ≠ .broken) :
    verdictOf (e >>= f) = .broken ↔ ofLooks a = .broken := by
  rw [verdictOf_bind_eq_broken_iff fun x _ => hf x, he]

/-- Where `f` can only refuse behind the looks `a`, it is a check behind them. -/
theorem verdictOf_bind_check {e : Except ConfigFailure α} {f : α → Except ConfigFailure β}
    {a : List Look} (he : verdictOf e = ofLooks a) (hf : ∀ x, verdictOf (f x) ≠ .broken) :
    verdictOf (e >>= f) = ofLooks (a ++ [.check (e >>= f).isOk]) := by
  rw [ofLooks_append, ← he]
  rcases e with (r | d) | x
  · rfl
  · rfl
  · exact (verdictOf_eq_ofBool (hf x)).trans (andThen_fine _).symm

end Verdict

open Verdict

/-! ## Looks at a file -/

/-- The settings of the section `name` of `raw`, if that is a mapping. -/
def sectionOf (raw : Entries) (name : String) : Entries := (settingsOf raw name).toOption.getD []

theorem sectionOf_eq {raw es : Entries} {name : String} (h : settingsOf raw name = .ok es) :
    sectionOf raw name = es := by
  rw [sectionOf, h]
  rfl

/-- The section `name` of `raw` is a mapping, or refused. -/
theorem broken_settingsOf_bind_iff {raw : Entries} {name : String}
    {f : Entries → Except ConfigFailure β} {b : List Look}
    (hf : ∀ es, sectionOf raw name = es → (verdictOf (f es) = .broken ↔ ofLooks b = .broken)) :
    verdictOf (settingsOf raw name >>= f) = .broken ↔
      ofLooks (.check (settingsOf raw name).isOk :: b) = .broken := by
  have hverdict : verdictOf (settingsOf raw name) ≠ .broken := by
    rw [settingsOf]
    split
    · rintro ⟨⟩
    split
    · rintro ⟨⟩
    split
    · rintro ⟨⟩
    · rintro ⟨⟩
  exact broken_bind_iff (a := [_]) ((verdictOf_eq_ofBool hverdict).trans (andThen_fine _).symm)
    fun es hes => hf es (sectionOf_eq hes)

/-- The looks at the settings `es` of the node. -/
def RedisSettings.looks (es : Entries) : List Look :=
  [.value .text "redis.connection_string"
     (setting es "connection_string" (.text ({} : RedisSettings).connection)),
   .value .path "redis.data_path"
     (setting es "data_path" (.text ({} : RedisSettings).dataPath.toString)),
   .value .text "redis.node_name" (setting es "node_name" (.text ({} : RedisSettings).nodeName)),
   .value .truth "redis.backup_master" (setting es "backup_master" (.bool true)),
   .value .truth "redis.backup_replica" (setting es "backup_replica" (.bool true))]

theorem RedisSettings.verdictOf_build (es : Entries) :
    verdictOf (RedisSettings.build es) = ofLooks (looks es) :=
  verdictOf_bind fun _ _ => verdictOf_bind fun _ _ => verdictOf_bind fun _ _ =>
    verdictOf_bind fun _ _ => verdictOf_bind fun _ _ => rfl

/-- The looks at the backup settings `es`. -/
def BackupSettings.looks (es : Entries) : List Look :=
  [.value .interval "backup.interval" (setting es "interval" (.text "1h")),
   .value .text "backup.dump_filename"
     (setting es "dump_filename" (.text ({} : BackupSettings).dumpName)),
   .value .duration "backup.initial_delay" (setting es "initial_delay" (.text "300s"))]

theorem BackupSettings.verdictOf_build (es : Entries) :
    verdictOf (BackupSettings.build es) = ofLooks (looks es) :=
  verdictOf_bind fun _ _ => verdictOf_bind fun _ _ => verdictOf_bind fun _ _ => rfl

/-- The looks at a target, which takes settings from the sections `backup` and `storage`: at a
locator alone if there is one. -/
def StorageTarget.looks (backup storage : Entries) : List Look :=
  let locator := setting backup "storage_url" .null
  if locator.truthy then [.value .locator "backup.storage_url" locator]
  else
    [.value .text "storage.type" (setting storage "type" (.text "s3")),
     .check (BackendKind.ofSection storage).isOk,
     .value .text "storage.bucket" (setting storage "bucket" (.text defaultFolder)),
     .value .text "storage.prefix" (setting storage "prefix" (.text defaultFolder))]

theorem BackendKind.verdictOf_ofSection (es : Entries) :
    verdictOf (BackendKind.ofSection es) = ofLooks
      [.value .text "storage.type" (setting es "type" (.text "s3")),
       .check (BackendKind.ofSection es).isOk] := by
  refine verdictOf_bind_check (a := [_]) (andThen_fine _).symm fun text => ?_
  dsimp only
  split
  · exact nofun
  · exact nofun

theorem StorageTarget.verdictOf_ofSection (es : Entries) (kind : BackendKind) :
    verdictOf (StorageTarget.ofSection es kind) = ofLooks
      [.value .text "storage.bucket" (setting es "bucket" (.text defaultFolder)),
       .value .text "storage.prefix" (setting es "prefix" (.text defaultFolder))] :=
  verdictOf_bind fun _ _ => verdictOf_bind fun _ _ => rfl

theorem StorageTarget.verdictOf_ofFile (backup storage : Entries) :
    verdictOf (StorageTarget.ofFile backup storage) = ofLooks (looks backup storage) := by
  rw [ofFile, looks]
  split
  · exact (andThen_fine _).symm
  · rw [verdictOf_bind fun kind _ => verdictOf_ofSection storage kind,
      BackendKind.verdictOf_ofSection, ← ofLooks_append]
    rfl

/-- The looks at the retention settings `es`: no duration is looked at if it is empty in any way. -/
def RetentionSettings.looks (es : Entries) : List Look :=
  .value .count "retention.keep_last" (setting es "keep_last" (.int 7)) ::
    let keep := setting es "keep_duration" .null
    if keep.truthy then [.value .duration "retention.keep_duration" keep] else []

theorem RetentionSettings.verdictOf_build (es : Entries) :
    verdictOf (RetentionSettings.build es) = ofLooks (looks es) := by
  refine verdictOf_bind fun keepLast _ => ?_
  dsimp only
  split
  · refine Eq.trans (verdictOf_bind fun _ _ => rfl) ?_
    rw [verdictOf_map]
    rfl
  · rfl

theorem LoggingSettings.verdictOf_validate_ne_broken (s : LoggingSettings) :
    verdictOf s.validate ≠ .broken := by
  rw [validate]
  split
  · exact nofun
  split
  · exact nofun
  · exact nofun

/-- The looks at the journal settings `es`. -/
def LoggingSettings.looks (es : Entries) : List Look :=
  [.value .text "logging.format" (setting es "format" (.text "text")),
   .value .text "logging.level" (setting es "level" (.text "info")),
   .check (LoggingSettings.build es).isOk]

theorem LoggingSettings.verdictOf_build (es : Entries) :
    verdictOf (LoggingSettings.build es) = ofLooks (looks es) := by
  refine verdictOf_bind fun format hformat => ?_
  have hbuild : LoggingSettings.build es = textSetting es "level" "info" >>= fun level =>
      LoggingSettings.validate ⟨lower format, lower level, setting es "file" .null⟩ := by
    rw [LoggingSettings.build, hformat]
    rfl
  rw [hbuild]
  exact verdictOf_bind_check (a := [_]) (andThen_fine _).symm fun level =>
    verdictOf_validate_ne_broken _

/-- The looks at the settings `es` of the counters. -/
def MetricsSettings.looks (es : Entries) : List Look :=
  [.value .truth "metrics.enabled" (setting es "enabled" (.bool ({} : MetricsSettings).enabled)),
   .value .port "metrics.port" (setting es "port" (.int ({} : MetricsSettings).port)),
   .value .text "metrics.listen_address"
     (setting es "listen_address" (.text ({} : MetricsSettings).address))]

theorem MetricsSettings.verdictOf_build (es : Entries) :
    verdictOf (MetricsSettings.build es) = ofLooks (looks es) :=
  verdictOf_bind fun _ _ => verdictOf_bind fun _ _ => verdictOf_bind fun _ _ => rfl

namespace Config

/-- The names of the sections, in the order in which `Config.build` takes them. -/
def sectionNames : List String := ["redis", "backup", "storage", "retention", "logging", "metrics"]

/-- **The looks at the mapping `raw` of a file**, in the order in which they are taken. -/
def fileLooks (raw : Entries) : List Look :=
  sectionNames.map (fun name => .check (settingsOf raw name).isOk) ++
    (RedisSettings.looks (sectionOf raw "redis") ++
      (BackupSettings.looks (sectionOf raw "backup") ++
        (StorageTarget.looks (sectionOf raw "backup") (sectionOf raw "storage") ++
          (RetentionSettings.looks (sectionOf raw "retention") ++
            (LoggingSettings.looks (sectionOf raw "logging") ++
              MetricsSettings.looks (sectionOf raw "metrics"))))))

/-- Names of `c` that are empty are refused by `validate`. -/
theorem verdictOf_validate_ne_broken (c : Config) : verdictOf c.validate ≠ .broken := by
  rw [validate]
  split
  · exact nofun
  split
  · exact nofun
  split
  · exact nofun
  · exact nofun

/-- **The mapping `raw` of a file breaks loading** just when the first of its `fileLooks` that is
not accepted is at a value that breaks. -/
theorem verdictOf_built_eq_broken_iff (raw : Entries) :
    verdictOf (built raw) = .broken ↔ Breaking (fileLooks raw) := by
  rw [← ofLooks_eq_broken_iff, built_eq]
  refine broken_settingsOf_bind_iff ?_
  rintro _ rfl
  refine broken_settingsOf_bind_iff ?_
  rintro _ rfl
  refine broken_settingsOf_bind_iff ?_
  rintro _ rfl
  refine broken_settingsOf_bind_iff ?_
  rintro _ rfl
  refine broken_settingsOf_bind_iff ?_
  rintro _ rfl
  refine broken_settingsOf_bind_iff ?_
  rintro _ rfl
  show _ ↔ ofLooks (RedisSettings.looks _ ++ _) = _
  refine broken_bind_iff (RedisSettings.verdictOf_build _) fun _ _ => ?_
  refine broken_bind_iff (BackupSettings.verdictOf_build _) fun _ _ => ?_
  refine broken_bind_iff (StorageTarget.verdictOf_ofFile _ _) fun _ _ => ?_
  refine broken_bind_iff (RetentionSettings.verdictOf_build _) fun _ _ => ?_
  refine broken_bind_iff (LoggingSettings.verdictOf_build _) fun _ _ => ?_
  refine broken_last_iff (MetricsSettings.verdictOf_build _) fun _ => ?_
  exact verdictOf_validate_ne_broken _

end Config

/-! ## Looks at variables -/

/-- The look at the variable `name` under the demand `d`, if it is given. -/
def givenLooks (env : Environment) (d : Demand) (name : String) : List Look :=
  match given? env name with
  | some s => [.value d name (.text s)]
  | none => []

theorem verdictOf_orGiven {env : Environment} {d : Demand} {name : String} {current : α}
    {convert : String → Except ConfigFailure α}
    (h : ∀ s, verdictOf (convert s) = d.verdict name (.text s)) :
    verdictOf (orGiven env name current convert) = ofLooks (givenLooks env d name) := by
  rw [orGiven, givenLooks]
  rcases given? env name with _ | s
  · rfl
  · exact (h s).trans (andThen_fine _).symm

/-- The variable `name`, which is taken as it is. -/
theorem verdictOf_orGiven_fine {env : Environment} {name : String} {current : α}
    {convert : String → Except ConfigFailure α} (h : ∀ s, verdictOf (convert s) = .fine) :
    verdictOf (orGiven env name current convert) = .fine := by
  rw [orGiven]
  split
  · exact h _
  · rfl

/-- The looks at the variables of the node in `env`. -/
def RedisSettings.variableLooks (env : Environment) : List Look :=
  givenLooks env .truth "BACKUP_MASTER" ++ givenLooks env .truth "BACKUP_REPLICA"

theorem RedisSettings.verdictOf_override (env : Environment) (s : RedisSettings) :
    verdictOf (s.override env) = ofLooks (variableLooks env) :=
  verdictOf_bind_fine (verdictOf_orGiven_fine fun _ => rfl) fun _ =>
    verdictOf_bind_fine (verdictOf_orGiven_fine fun _ => rfl) fun _ =>
      verdictOf_bind_fine (verdictOf_orGiven_fine fun _ => rfl) fun _ =>
        verdictOf_looks_bind (verdictOf_orGiven fun _ => rfl) fun _ =>
          verdictOf_looks_pure (verdictOf_orGiven fun _ => rfl)

/-- The looks at the variables of backups in `env`. -/
def BackupSettings.variableLooks (env : Environment) : List Look :=
  givenLooks env .interval "BACKUP_INTERVAL" ++ givenLooks env .duration "INITIAL_DELAY"

theorem BackupSettings.verdictOf_override (env : Environment) (s : BackupSettings) :
    verdictOf (s.override env) = ofLooks (variableLooks env) :=
  verdictOf_looks_bind (verdictOf_orGiven fun _ => rfl) fun _ =>
    verdictOf_bind_fine (verdictOf_orGiven_fine fun _ => rfl) fun _ =>
      verdictOf_looks_pure (verdictOf_orGiven fun _ => rfl)

/-- The looks at the variables in `env` of the target that is `t` so far: at a locator once the kind
of store is known, or else at whether there is a bucket. -/
def StorageTarget.variableLooks (env : Environment) (t : StorageTarget) : List Look :=
  .check (targetKind env t.kind).isOk ::
    match given? env "STORAGE_URL" with
    | some s => [.value .locator "STORAGE_URL" (.text s)]
    | none => [.check (t.override env).isOk]

theorem verdictOf_targetKind_ne_broken (env : Environment) (kind : BackendKind) :
    verdictOf (targetKind env kind) ≠ .broken := by
  rw [targetKind]
  split
  · dsimp only
    split <;> exact nofun
  · split
    · exact nofun
    · split <;> exact nofun

theorem StorageTarget.verdictOf_override (env : Environment) (t : StorageTarget) :
    verdictOf (t.override env) = ofLooks (variableLooks env t) := by
  have hkind : verdictOf (targetKind env t.kind) =
      ofLooks [.check (targetKind env t.kind).isOk] :=
    (verdictOf_eq_ofBool (verdictOf_targetKind_ne_broken _ _)).trans (andThen_fine _).symm
  rw [variableLooks]
  rcases hurl : given? env "STORAGE_URL" with _ | s
  · refine verdictOf_bind_check hkind fun kind => ?_
    rw [hurl]
    dsimp only
    generalize (if t.kind = kind then some t else none : Option StorageTarget) = current
    split
    · exact nofun
    · cases kind <;> exact nofun
  · rw [StorageTarget.override, hurl]
    exact verdictOf_looks_bind hkind fun kind => (andThen_fine _).symm

/-- The looks at the variables of the retention settings in `env`. -/
def RetentionSettings.variableLooks (env : Environment) : List Look :=
  givenLooks env .count "RETENTION_KEEP_LAST" ++ givenLooks env .duration "RETENTION_KEEP_DURATION"

theorem RetentionSettings.verdictOf_override (env : Environment) (s : RetentionSettings) :
    verdictOf (s.override env) = ofLooks (variableLooks env) :=
  verdictOf_looks_bind (verdictOf_orGiven fun _ => rfl) fun _ =>
    verdictOf_looks_pure (verdictOf_orGiven fun _ => verdictOf_map _ _)

/-- The look at the variables of the journal in `env`, which can only be refused. -/
def LoggingSettings.variableLooks (env : Environment) (s : LoggingSettings) : List Look :=
  [.check (s.override env).isOk]

theorem LoggingSettings.verdictOf_override (env : Environment) (s : LoggingSettings) :
    verdictOf (s.override env) = ofLooks (variableLooks env s) := by
  refine (verdictOf_eq_ofBool ?_).trans (andThen_fine _).symm
  refine verdictOf_bind_ne_broken (verdictOf_orGiven_fine fun _ => rfl) fun _ => ?_
  refine verdictOf_bind_ne_broken (verdictOf_orGiven_fine fun _ => rfl) fun _ => ?_
  refine verdictOf_bind_ne_broken (verdictOf_orGiven_fine fun _ => rfl) fun _ => ?_
  exact LoggingSettings.verdictOf_validate_ne_broken _

/-- The looks at the variables of the counters in `env`. -/
def MetricsSettings.variableLooks (env : Environment) : List Look :=
  givenLooks env .truth "METRICS_ENABLED" ++ givenLooks env .port "METRICS_PORT"

theorem MetricsSettings.verdictOf_override (env : Environment) (s : MetricsSettings) :
    verdictOf (s.override env) = ofLooks (variableLooks env) :=
  verdictOf_looks_bind (verdictOf_orGiven fun _ => rfl) fun _ =>
    (verdictOf_looks_bind (b := []) (verdictOf_orGiven fun _ => rfl) fun _ =>
      verdictOf_bind_fine (verdictOf_orGiven_fine fun _ => rfl) fun _ => rfl).trans
        (congrArg ofLooks (List.append_nil _))

namespace Config

/-- **The looks at the variables in `env`** that are laid over the configuration `c`, in the order
in which they are taken. -/
def variableLooks (env : Environment) (c : Config) : List Look :=
  RedisSettings.variableLooks env ++
    (BackupSettings.variableLooks env ++
      (c.storage.variableLooks env ++
        (RetentionSettings.variableLooks env ++
          (c.logging.variableLooks env ++ MetricsSettings.variableLooks env))))

/-- **The variables in `env` break loading** just when the first of the `variableLooks` that is not
accepted is at a value that breaks. -/
theorem verdictOf_override_eq_broken_iff (env : Environment) (c : Config) :
    verdictOf (c.override env) = .broken ↔ Breaking (c.variableLooks env) := by
  rw [← ofLooks_eq_broken_iff, override]
  refine broken_bind_iff (RedisSettings.verdictOf_override _ _) fun _ _ => ?_
  refine broken_bind_iff (BackupSettings.verdictOf_override _ _) fun _ _ => ?_
  refine broken_bind_iff (StorageTarget.verdictOf_override _ _) fun _ _ => ?_
  refine broken_bind_iff (RetentionSettings.verdictOf_override _ _) fun _ _ => ?_
  refine broken_bind_iff (LoggingSettings.verdictOf_override _ _) fun _ _ => ?_
  refine broken_last_iff (MetricsSettings.verdictOf_override _ _) fun _ => ?_
  exact verdictOf_validate_ne_broken _

/-! ## What breaks loading -/

/-- **A file and variables that break loading**: the file at `path`, if there is one, and the
variables in `env`. -/
inductive Breaks (files : FileTree) (path : Option String) (env : Environment) : Prop where
  /-- The system refuses to look at the path. -/
  | path {p : String} {f : FileFault} (given : path = some p) (nonempty : p ≠ "")
      (fault : files.isThere (.ofString p) = .error f)
  /-- The file has a value that cannot be built, by a fault that is not one of its format. -/
  | file {p : String} {content : ByteArray} {f : Yaml.Fault} (given : path = some p)
      (nonempty : p ≠ "") (read : files.read (.ofString p) = .ok content)
      (fault : Yaml.load (Text.Legible.ofBytes content.data.toList) = .error f)
      (strange : f ≠ .malformed)
  /-- The first value of the file that is not accepted breaks. -/
  | setting {raw : Entries} (read : entries files path = .ok raw)
      (breaks : Breaking (fileLooks raw))
  /-- The file is accepted, and the first variable that is not breaks. -/
  | variable {raw : Entries} {c : Config} (read : entries files path = .ok raw)
      (accepted : built raw = .ok c) (breaks : Breaking (c.variableLooks env))

variable {files : FileTree} {path : Option String} {env : Environment}

/-- The file at `p` has a value that `Yaml.load` cannot build, though nothing is wrong with its
form. -/
def HasStrangeValue (files : FileTree) (p : FilePath) : Prop :=
  ∃ content f, files.read p = .ok content ∧
    Yaml.load (Text.Legible.ofBytes content.data.toList) = .error f ∧ f ≠ .malformed

theorem verdictOf_fromFile_eq_broken_iff {p : FilePath} :
    verdictOf (fromFile files p) = .broken ↔ HasStrangeValue files p := by
  rw [fromFile, HasStrangeValue]
  rcases files.read p with f | content
  · exact iff_of_false nofun fun ⟨_, _, h, _⟩ => nomatch h
  dsimp only
  rcases hload : Yaml.load (Text.Legible.ofBytes content.data.toList) with f | v
  · by_cases hf : f = .malformed
    · subst hf
      refine iff_of_false nofun ?_
      rintro ⟨_, _, ⟨⟩, h, hne⟩
      exact hne (Except.error.inj (h.symm.trans hload))
    · refine iff_of_true ?_ ⟨content, f, rfl, hload, hf⟩
      cases f <;> first | rfl | exact absurd rfl hf
  · refine iff_of_false ?_ ?_
    · dsimp only
      split
      · exact nofun
      split <;> exact nofun
    · rintro ⟨_, _, ⟨⟩, h, -⟩
      exact nomatch h.symm.trans hload

/-- Where `read` reads something, there is something, unless the system refuses to look. -/
theorem isThere_ne_of_read {p : FilePath} {content : ByteArray} (h : files.read p = .ok content) :
    files.isThere p ≠ .ok false := by
  obtain ⟨-, changed, hfind⟩ := FileTree.read_eq_ok_iff.1 h
  rw [FileTree.isThere, FileTree.ask, hfind]
  cases files.refusals .look p <;> simp

theorem verdictOf_entries_eq_broken_iff :
    verdictOf (entries files path) = .broken ↔
      ∃ p, path = some p ∧ p ≠ "" ∧
        ((∃ f, files.isThere (.ofString p) = .error f) ∨ HasStrangeValue files (.ofString p)) := by
  rw [entries]
  rcases path with _ | p
  · refine iff_of_false (by rintro ⟨⟩) ?_
    rintro ⟨_, ⟨⟩, -⟩
  by_cases hempty : p = ""
  · subst hempty
    refine iff_of_false (by rintro ⟨⟩) ?_
    rintro ⟨_, ⟨⟩, hne, -⟩
    exact hne rfl
  have hplace : ((some p).filter fun s => !s.isEmpty).map FilePath.ofString =
      some (.ofString p) := by
    rw [Option.filter_some, if_pos (by simpa using hempty), Option.map_some]
  rw [hplace]
  have hiff : ∀ {P : String → Prop}, (∃ q, some p = some q ∧ q ≠ "" ∧ P q) ↔ P p := by
    intro P
    constructor
    · rintro ⟨_, ⟨⟩, -, hP⟩
      exact hP
    · exact fun hP => ⟨p, rfl, hempty, hP⟩
  rw [hiff]
  dsimp only
  rcases hthere : files.isThere (.ofString p) with f | _ | _
  · exact iff_of_true rfl (.inl ⟨f, rfl⟩)
  · refine iff_of_false (by rintro ⟨⟩) ?_
    rintro (⟨_, ⟨⟩⟩ | ⟨content, _, hread, -⟩)
    exact isThere_ne_of_read hread hthere
  · rw [or_iff_right (by rintro ⟨_, ⟨⟩⟩)]
    exact verdictOf_fromFile_eq_broken_iff

/-- **When loading breaks**: `loaded` comes neither to a configuration nor to a reason to refuse one
just when the path, the file, a setting of the file or a variable breaks it, by `Breaks`. -/
theorem broken_iff :
    (∃ d, loaded files path env = .error (.broken d)) ↔ Breaks files path env := by
  have hrest : ∀ raw, verdictOf (built raw >>= override env) = .broken ↔
      Breaking (fileLooks raw) ∨ ∃ c, built raw = .ok c ∧ Breaking (c.variableLooks env) := by
    intro raw
    simp only [verdictOf_bind_eq_broken_iff_or, verdictOf_built_eq_broken_iff,
      verdictOf_override_eq_broken_iff]
  rw [← verdictOf_eq_broken_iff, loaded_eq, verdictOf_bind_eq_broken_iff_or,
    verdictOf_entries_eq_broken_iff]
  constructor
  · rintro (⟨p, hp, hne, ⟨f, hf⟩ | ⟨content, f, hread, hf, hbad⟩⟩ | ⟨raw, hraw, h⟩)
    · exact .path hp hne hf
    · exact .file hp hne hread hf hbad
    · rcases (hrest raw).1 h with h | ⟨c, hc, h⟩
      · exact .setting hraw h
      · exact .variable hraw hc h
  · rintro (⟨hp, hne, hf⟩ | ⟨hp, hne, hread, hf, hbad⟩ | ⟨hraw, h⟩ | ⟨hraw, hc, h⟩)
    · exact .inl ⟨_, hp, hne, .inl ⟨_, hf⟩⟩
    · exact .inl ⟨_, hp, hne, .inr ⟨_, _, hread, hf, hbad⟩⟩
    · exact .inr ⟨_, hraw, (hrest _).2 (.inl h)⟩
    · exact .inr ⟨_, hraw, (hrest _).2 (.inr ⟨_, hc, h⟩)⟩

/-- A duration that is out of range breaks loading also if it is given by a variable. -/
example :
    failure? (ofText "" [("RETENTION_KEEP_DURATION", "1000000000d")]) =
      some (.broken .outOfRange) := by
  decide +kernel

/-- **A count that is infinite is neither accepted nor refused** by `ofText`. -/
theorem broken_infiniteCount :
    ofText "retention:\n  keep_last: .inf\n" [] = .error (.broken .outOfRange) ∧
      ¬∀ text env, (∃ c, ofText text env = .ok c) ∨ ∃ e, ofText text env = .error (.refused e) := by
  have hbroken : ofText "retention:\n  keep_last: .inf\n" [] = .error (.broken .outOfRange) :=
    eq_error_of_failure? (by decide +kernel)
  refine ⟨hbroken, fun h => ?_⟩
  rcases h "retention:\n  keep_last: .inf\n" [] with ⟨c, hc⟩ | ⟨e, he⟩
  · exact nomatch hbroken.symm.trans hc
  · exact nomatch hbroken.symm.trans he

end Config

end DumpKeeper
