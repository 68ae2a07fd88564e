import DumpKeeper.Logging
import Mathlib.Data.List.Infix

/-!
# Which records are shown

A logger belongs to the program if its name is that of the program, or goes on from there behind a
point.  The way up from a logger is found point by point among the loggers that are known, and what
was decided once is not looked at again; for all that, it is the names and the levels alone that
decide which records are shown.  There is one kind of name for which this is not so: of two points
in a row the first is passed over, and with it the program, if that is what is cut off there.

* `BelongsToProgram`, `IsPlainlyNamed` — the names below that of the program, and those without a
  second point right behind it.
* `isOwnLogger_iff` — a plain name leads up to the program just if it belongs to it, whichever
  loggers are known.
* `Logging.admits` — the rule by which records are shown.
* `Logging.ask_spec`, `Logging.filter_shown` — one record, and any number of them one after another,
  are shown by the rule.
-/

set_option autoImplicit false

namespace DumpKeeper

/-! ## The way up -/

/-- `logger` is the logger of the program, or its name goes on from `applicationName` behind a
point. -/
def BelongsToProgram (logger : String) : Prop :=
  logger = applicationName ∨ (applicationName ++ ".").toList <+: logger.toList

/-- The name of `logger` has no second point right behind the name of the program. -/
def IsPlainlyNamed (logger : String) : Prop := ¬(applicationName ++ "..").toList <+: logger.toList

instance : DecidablePred BelongsToProgram := fun _ => inferInstanceAs (Decidable (_ ∨ _))

instance : DecidablePred IsPlainlyNamed := fun _ => inferInstanceAs (Decidable ¬_)

section Way

variable {known : List String} {logger : String}

/-- The way from `name` leads to the program only if `applicationName` is in front. -/
theorem suffix_of_leadsUp {name : List Char} (h : leadsUp known name = true) :
    '.' :: applicationName.toList.reverse <:+ name := by
  fun_induction leadsUp known name with
  | case1 c rest above ih ih' =>
    rw [Bool.or_eq_true, beq_iff_eq] at h
    rcases h with happ | hup
    · rw [← happ, String.toList_ofList, List.reverse_reverse]
    · split at hup
      · exact (ih hup).trans (List.suffix_cons _ _)
      · exact (ih' hup).trans ((List.suffix_cons _ _).trans (List.suffix_cons _ _))
  | case2 x rest _ ih => exact (ih h).trans (List.suffix_cons x rest)
  | case3 => cases h

/-- If `applicationName` is in front, with no second point behind it, the way leads there: what is
passed over is never the point behind that name. -/
theorem leadsUp_of_append (part : List Char) (h : part.getLast? ≠ some '.') :
    leadsUp known (part ++ '.' :: applicationName.toList.reverse) = true := by
  have htail : ∀ (x : Char) (part : List Char), (x :: part).getLast? ≠ some '.' →
      part.getLast? ≠ some '.' := fun x part hx hp => hx (by rw [List.getLast?_cons, hp]; rfl)
  generalize hname : part ++ '.' :: applicationName.toList.reverse = name
  fun_induction leadsUp known name generalizing part with
  | case1 c rest above ih ih' =>
    rw [Bool.or_eq_true, beq_iff_eq]
    cases part with
    | nil =>
      obtain ⟨-, habove⟩ := List.cons.inj hname
      left
      rw [show above = _ from congrArg (String.ofList ∘ List.reverse) habove.symm]
      simp
    | cons x part =>
      obtain ⟨rfl, hrest⟩ := List.cons.inj hname
      right
      cases part with
      | nil => exact absurd rfl h
      | cons y part =>
        -- `y` is what may be passed over, and it stands behind the point that is looked for
        obtain ⟨rfl, hbelow⟩ := List.cons.inj hrest
        have hpart := htail _ _ h
        split
        · exact ih (y :: part) hpart hrest
        · exact ih' part (htail _ _ hpart) hbelow
  | case2 x rest hpoint ih =>
    cases part with
    | nil =>
      obtain ⟨rfl, hrest⟩ := List.cons.inj hname
      have happ : applicationName.toList.reverse =
          ['t', 'l', 'u', 'a', 'v', '_', 's', 'i', 'd', 'e', 'r'] := by decide
      exact (hpoint _ _ rfl (hrest.symm.trans happ)).elim
    | cons y part => exact ih part (htail y part h) (List.cons.inj hname).2
  | case3 => cases part <;> cases hname

theorem belongsToProgram_of_isOwnLogger (h : isOwnLogger known logger = true) :
    BelongsToProgram logger := by
  rw [isOwnLogger, Bool.or_eq_true, beq_iff_eq] at h
  refine h.imp_right fun hup => ?_
  have hsuffix := suffix_of_leadsUp hup
  rwa [← List.reverse_prefix, List.reverse_reverse, List.reverse_cons, List.reverse_reverse]
    at hsuffix

/-- **Names decide which loggers belong to the program**, if they are plain, and not what other
loggers are `known`. -/
theorem isOwnLogger_iff (h : IsPlainlyNamed logger) (known : List String) :
    isOwnLogger known logger = true ↔ BelongsToProgram logger := by
  refine ⟨belongsToProgram_of_isOwnLogger, fun hpart => ?_⟩
  rw [isOwnLogger, Bool.or_eq_true, beq_iff_eq]
  refine hpart.imp_right fun ⟨rest, hrest⟩ => ?_
  have hname : logger.toList.reverse = rest.reverse ++ '.' :: applicationName.toList.reverse := by
    rw [← hrest]
    simp
  rw [hname]
  refine leadsUp_of_append _ fun hpoint => h ?_
  rw [List.getLast?_reverse, List.head?_eq_some_iff] at hpoint
  obtain ⟨more, rfl⟩ := hpoint
  exact ⟨more, by rw [← hrest]; simp⟩

/-- The point behind the program is passed over if another follows, unless there is a logger that
is cut off there. -/
example : isOwnLogger ["redis_vault"] "redis_vault..x" = false ∧
    isOwnLogger ["redis_vault", "redis_vault."] "redis_vault..x" = true := by
  decide

end Way

/-! ## The rule -/

/-- Records of the program are shown from its own level on, and all others from that of everything
else: whether a record of `logger` at `level` is one of these. -/
def Logging.admits (l : Logging) (logger : String) (level : Int) : Bool :=
  (if BelongsToProgram logger then l.own.getD l.base else l.base).number ≤ level

variable {l : Logging} {g : Loggers} {logger : String} {level : Int}

/-- What was decided in `g` for loggers with plain names was decided by `Logging.admits`. -/
def Loggers.IsLawful (g : Loggers) (l : Logging) : Prop :=
  ∀ logger level answer, g.answers.lookup (logger, level) = some answer → IsPlainlyNamed logger →
    answer = l.admits logger level

/-- Loggers without `answers` are lawful. -/
theorem Loggers.isLawful_of_nil (h : g.answers = []) : g.IsLawful l := by
  intro logger level answer hanswer
  rw [h] at hanswer
  cases hanswer

theorem Logging.levelOf_of_isPlainlyNamed (h : IsPlainlyNamed logger) (known : List String) :
    l.levelOf known logger =
      if BelongsToProgram logger then l.own.getD l.base else l.base := by
  rw [levelOf]
  simp only [isOwnLogger_iff h]

/-- **One record is shown by the rule**, `Logging.admits`, and what is decided for it is so as
well. -/
theorem Logging.ask_spec (hg : g.IsLawful l) (logger : String) (level : Int) :
    (IsPlainlyNamed logger → (l.ask logger level g).1 = l.admits logger level) ∧
      (l.ask logger level g).2.IsLawful l := by
  rw [ask]
  split
  · rename_i answer hanswer
    exact ⟨hg _ _ _ hanswer, hg⟩
  · have hrule : IsPlainlyNamed logger →
        decide ((l.levelOf g.known logger).number ≤ level) = l.admits logger level := fun h => by
      rw [levelOf_of_isPlainlyNamed h, admits]
    refine ⟨hrule, fun logger' level' answer hanswer hplain => ?_⟩
    rw [List.lookup_cons] at hanswer
    split at hanswer
    · rename_i heq
      obtain ⟨rfl, rfl⟩ := Prod.mk.inj (eq_of_beq heq)
      exact (Option.some.inj hanswer).symm.trans (hrule hplain)
    · exact hg _ _ _ hanswer hplain

theorem Logging.shown_cons (l : Logging) (g : Loggers) (r : LogRecord) (rest : List LogRecord) :
    l.shown g (r :: rest) =
      if (l.ask r.logger r.level g).1 then r :: l.shown (l.ask r.logger r.level g).2 rest
      else l.shown (l.ask r.logger r.level g).2 rest := rfl

/-- What is `shown` was written, and nothing of it twice or in another order. -/
theorem Logging.shown_sublist (l : Logging) (g : Loggers) (records : List LogRecord) :
    (l.shown g records).Sublist records := by
  induction records generalizing g with
  | nil => exact List.Sublist.refl _
  | cons r rest ih =>
    rw [shown_cons]
    split
    · exact (ih _).cons_cons r
    · exact (ih _).cons r

/-- **Records that come one after another are shown by the rule**, `Logging.admits`, whatever comes
between them. -/
theorem Logging.filter_shown (hg : g.IsLawful l) (records : List LogRecord) :
    (l.shown g records).filter (fun r => IsPlainlyNamed r.logger) =
      records.filter fun r => IsPlainlyNamed r.logger && l.admits r.logger r.level := by
  induction records generalizing g with
  | nil => rfl
  | cons r rest ih =>
    obtain ⟨hshown, hlawful⟩ := ask_spec hg r.logger r.level
    rw [shown_cons]
    conv_rhs => rw [List.filter_cons, ← ih hlawful]
    by_cases hplain : IsPlainlyNamed r.logger
    · rw [hshown hplain, decide_eq_true hplain, Bool.true_and]
      split
      · exact List.filter_cons_of_pos (by simpa using hplain)
      · rfl
    · rw [decide_eq_false hplain, Bool.false_and, if_neg Bool.false_ne_true]
      split
      · exact List.filter_cons_of_neg (by simpa using hplain)
      · rfl

/-- Where all names are plain, by `IsPlainlyNamed`, the rule of `admits` decides about
everything. -/
theorem Logging.shown_of_isPlainlyNamed (hg : g.IsLawful l) {records : List LogRecord}
    (h : ∀ r ∈ records, IsPlainlyNamed r.logger) :
    l.shown g records = records.filter fun r => l.admits r.logger r.level := by
  have hall := filter_shown hg records
  rw [List.filter_eq_self.2 fun r hr =>
    decide_eq_true (h r ((l.shown_sublist g records).subset hr))] at hall
  rw [hall]
  exact List.filter_congr fun r hr => by rw [decide_eq_true (h r hr), Bool.true_and]

end DumpKeeper
