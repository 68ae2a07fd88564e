import DumpKeeper.Proofs.Act
import DumpKeeper.Proofs.Loggers
import DumpKeeper.Proofs.Rollover

/-!
# The journal set up

The journal is set up step by step: the sinks are made, for which a file may have to be opened, and
only then are those in use replaced and the levels set.  So everything is as it was if the file
cannot be opened, and else the console and the file receive the same records, however often the file
is full and a new one is begun.  Three things are not as they should be.  A name that can be that of
no file is not refused as a fault of the settings is; a text with a half of a character in it never
reaches a file; and a logger whose name has two points behind that of the program is taken for one
of a library.  Besides, what comes is lost to a file that is full and cannot be moved aside.

* `Text.IsAscii` — a text in ASCII characters.  A record that is written as a mapping is one.
* `LogSink.HasRoom` — files can be moved whenever a record does not fit; `LogSink.received_eq_iff`
  tells what a sink receives.
* `LogState.held_filesAfter` — what the files of a sink hold after records have come to it.
* `LoggingSettings.install`, `install_run` — the steps, and that the settings come to the same in
  one go.
* `LoggingSettings.SetsUp` — what the set-up is to come to, for the records that are written
  afterwards.
* `LoggingSettings.setsUp_iff` — when it does.
-/

set_option autoImplicit false

namespace DumpKeeper

/-! ## Texts in ASCII -/

namespace Text

/-- All characters of `cs` are below 128. -/
def IsAscii (cs : List Char) : Prop := ∀ c ∈ cs, c.toNat < 128

instance (cs : List Char) : Decidable (IsAscii cs) :=
  List.decidableBAll (fun c : Char => c.toNat < 128) cs

namespace IsAscii

variable {cs ds : List Char}

theorem append (hc : IsAscii cs) (hd : IsAscii ds) : IsAscii (cs ++ ds) :=
  List.forall_mem_append.2 ⟨hc, hd⟩

theorem flatMap {f : Char → List Char} (h : ∀ c, IsAscii (f c)) (cs : List Char) :
    IsAscii (cs.flatMap f) := by
  intro c hc
  obtain ⟨d, -, hd⟩ := List.mem_flatMap.1 hc
  exact h d c hd

theorem intercalate (hc : IsAscii cs) {parts : List (List Char)}
    (h : ∀ part ∈ parts, IsAscii part) : IsAscii (cs.intercalate parts) := by
  induction parts with
  | nil => exact List.forall_mem_nil _
  | cons part rest ih =>
    obtain ⟨hpart, hrest⟩ := List.forall_mem_cons.1 h
    cases rest with
    | nil => rwa [List.intercalate_singleton]
    | cons next rest =>
      rw [List.intercalate_cons_cons]
      exact (hpart.append hc).append (ih hrest)

end IsAscii

/-- Numbers are written in ASCII, to a base `b` of up to 16. -/
theorem isAscii_toDigits {b : Nat} (hb : 1 < b) (hlast : b ≤ 16) (n : Nat) :
    IsAscii (Nat.toDigits b n) := by
  have hdigit : ∀ d < 16, IsAscii [d.digitChar] := by decide
  induction n using Nat.strongRecOn with
  | ind n ih =>
    rcases Nat.lt_or_ge n b with hn | hn
    · rw [Nat.toDigits_of_lt_base hn]
      exact hdigit n (by omega)
    · have hmod := Nat.mod_lt n (by omega : 0 < b)
      rw [Nat.toDigits_of_base_le hb hn]
      exact (ih _ (Nat.div_lt_self (by omega) hb)).append (hdigit _ (by omega))

theorem isAscii_int (n : Int) : IsAscii (toString n).toList := by
  have hnat : ∀ n : Nat, IsAscii n.repr.toList := fun n => by
    rw [Nat.toList_repr]
    exact isAscii_toDigits (by decide) (by decide) n
  cases n with
  | ofNat n => exact hnat n
  | negSucc n =>
    show IsAscii ("-" ++ n.succ.repr).toList
    rw [String.toList_append]
    exact IsAscii.append (by decide) (hnat _)

theorem isAscii_jsonUnit (n : Nat) : IsAscii (jsonUnit n) := by
  have hdigits : IsAscii (hexDigits 4 n) := by
    refine IsAscii.append (fun c hc => ?_) (isAscii_toDigits (by decide) (by decide) n)
    rw [List.eq_of_mem_replicate hc]
    decide
  exact (show IsAscii ['\\', 'u'] by decide).append hdigits

theorem isAscii_jsonChar (c : Char) : IsAscii (jsonChar c) := by
  rw [jsonChar]
  split
  · rename_i hquote
    rcases hquote with rfl | rfl <;> decide
  · iterate 5
      split
      · decide
    split
    · rename_i hplain
      exact List.forall_mem_singleton.2 (by omega)
    · rw [jsonEscape]
      split
      · exact isAscii_jsonUnit _
      · exact (isAscii_jsonUnit _).append (isAscii_jsonUnit _)

/-- **The text `s` in JSON is in ASCII**, whatever it stands for. -/
theorem isAscii_jsonText (s : String) : IsAscii (jsonText s).toList := by
  rw [jsonText, String.toList_ofList]
  have hquote : IsAscii ['"'] := by decide
  exact (hquote.append (.flatMap isAscii_jsonChar _)).append hquote

theorem isAscii_jsonObject {comma colon : String} {entries : List (String × String)}
    (hcomma : IsAscii comma.toList) (hcolon : IsAscii colon.toList)
    (h : ∀ e ∈ entries, IsAscii e.2.toList) :
    IsAscii (jsonObject comma colon entries).toList := by
  rw [jsonObject, String.toList_append, String.toList_append, String.toList_intercalate]
  refine (IsAscii.append (by decide) (hcomma.intercalate ?_)).append (by decide)
  simp only [List.map_map, List.mem_map, Function.comp_apply, forall_exists_index, and_imp]
  rintro _ e he rfl
  rw [String.toList_append, String.toList_append]
  exact ((isAscii_jsonText e.1).append hcolon).append (h e he)

end Text

/-- **A record that is written as a `mapping` is in ASCII.** -/
theorem LogRecord.isAscii_mapping (r : LogRecord) : Text.IsAscii (r.text .mapping).toList := by
  refine Text.isAscii_jsonObject (by decide) (by decide) fun e he => ?_
  simp only [List.mem_cons, List.not_mem_nil, or_false] at he
  rcases he with rfl | rfl | rfl | rfl | rfl | rfl | rfl
  iterate 6
    exact Text.isAscii_jsonText _
  exact Text.isAscii_int r.line

/-- A text in ASCII has no halves of characters, so every `style` takes it. -/
theorem LogStyle.takes_of_isAscii {text : String} (h : Text.IsAscii text.toList)
    (style : LogStyle) : style.takes text = true := by
  have hnone : (text.toList.any fun c => Text.isHalf (Text.codeOf c)) = false :=
    List.any_eq_false.2 fun c hc => by
      have hlow := h c hc
      have hcode : Text.codeOf c = c.toNat := by
        have hnear : ¬Text.halfShift ≤ c.toNat := Nat.not_le.2 (hlow.trans (by decide))
        rw [Text.codeOf, decide_eq_false hnear, Bool.false_and, if_neg Bool.false_ne_true]
      rw [hcode, Text.isHalf, decide_eq_false (by omega), Bool.false_and]
      exact Bool.false_ne_true
  rw [takes, hnone, Bool.not_false, Bool.or_true]

/-! ## Sinks -/

namespace LogSink

variable {k : LogSink} {files : FileTree} {moves : List Bool} {shown : List LogRecord}

/-- The files of the sink `k`, if it has some, can be moved whenever one of the records in `shown`
does not fit; `moves` tells of each attempt whether it works. -/
def HasRoom (k : LogSink) (files : FileTree) (moves : List Bool) (shown : List LogRecord) : Prop :=
  ∀ place, k.place = some place →
    ∀ m ∈ moves.take
      ((files.logFiles place moves).attempts k.style.line k.style.takesRecord shown), m = true

/-- A sink has room if none of the `moves` ever fails. -/
theorem hasRoom_of_moves (h : k.place.isSome = true → ∀ m ∈ moves, m = true) :
    k.HasRoom files moves shown := fun _ hplace m hm =>
  h (by rw [hplace]; rfl) m (List.mem_of_mem_take hm)

/-- Where there is room, by `HasRoom`, a sink receives what its style takes of the `shown`
records. -/
theorem received_of_hasRoom (h : k.HasRoom files moves shown) :
    k.received files moves shown = shown.filter k.style.takesRecord := by
  rw [received]
  split
  · rfl
  · rename_i place hplace
    exact LogFiles.receive_of_moves (h place hplace)

/-- **A sink receives all that is `shown`** just if its style takes every record, and it has
room. -/
theorem received_eq_iff :
    k.received files moves shown = shown ↔
      (∀ r ∈ shown, k.style.takesRecord r = true) ∧ k.HasRoom files moves shown := by
  rw [received]
  split
  · rename_i hplace
    have hroom : k.HasRoom files moves shown := fun _ h => nomatch hplace.symm.trans h
    rw [List.filter_eq_self, and_iff_left hroom]
  · rename_i place hplace
    rw [LogFiles.receive_eq_iff]
    refine and_congr_right fun _ => ⟨fun h place' hplace' => ?_, fun h => h place hplace⟩
    obtain rfl := Option.some.inj (hplace.symm.trans hplace')
    exact h

end LogSink

/-! ## Step by step -/

/-- What the set-up of the journal works on: `logging`, `loggers` and `files` are what they are
then, and `moves` tells whether the next attempts to move files of entries succeed.  No logger but
that of the program has a level of its own. -/
structure LogState where
  logging : Logging
  loggers : Loggers
  files : FileTree
  moves : List Bool := []

namespace LogState

/-- The records that the sink `k` receives, of `records` that come one after another. -/
def received (t : LogState) (k : LogSink) (records : List LogRecord) : List LogRecord :=
  t.logging.received k t.files t.moves t.loggers records

/-- The files of a place after records have come to the sink `k`, whose file is there. -/
def filesAfter (t : LogState) (k : LogSink) (place : List String) (records : List LogRecord) :
    LogFiles :=
  ((t.files.logFiles place t.moves).receive k.style.line k.style.takesRecord
    (t.logging.shown t.loggers records)).2

/-- **What is received is held**: the files of the sink `k` hold what they held and then the lines
of the records that it receives, and the oldest of that is gone only if ten older files are too
few. -/
theorem held_filesAfter (t : LogState) {k : LogSink} {place : List String}
    (hk : k.place = some place) (records : List LogRecord) :
    (t.filesAfter k place records).held <:+
        (t.files.logFiles place t.moves).held ++
          LogFiles.written k.style.line (t.received k records) ∧
      ((t.files.logFiles place t.moves).older.length +
          (t.files.logFiles place t.moves).attempts k.style.line k.style.takesRecord
            (t.logging.shown t.loggers records) ≤ keptLogFiles →
        (t.filesAfter k place records).held =
          (t.files.logFiles place t.moves).held ++
            LogFiles.written k.style.line (t.received k records)) := by
  have hreceived : t.received k records = ((t.files.logFiles place t.moves).receive k.style.line
      k.style.takesRecord (t.logging.shown t.loggers records)).1 := by
    rw [received, Logging.received, LogSink.received, hk]
  rw [hreceived]
  exact LogFiles.held_receive _ _ _ _

/-- The levels and sinks of `l` are set up among `files`.  Nothing is left of what was decided
before, and the first entry is shown or not. -/
def setUp (t : LogState) (l : Logging) (files : FileTree) : LogState where
  logging := l
  loggers := (l.ask applicationName Level.info.number { t.loggers with answers := [] }).2
  files := files
  moves := t.moves

/-- What a configuration of the journal comes to in the state `t`: without one, everything stays as
it is. -/
def settle (t : LogState) (x : Except ConfigFailure (Logging × FileTree)) :
    Except ConfigFailure Unit × LogState :=
  (x.map fun _ => (), (x.toOption.map fun a => t.setUp a.1 a.2).getD t)

end LogState

namespace LoggingSettings

variable {s : LoggingSettings} {t u : LogState} {files : FileTree} {records : List LogRecord}

/-- The style of a sink under the settings `s`; `plain` is that of a text. -/
def style (s : LoggingSettings) (plain : LogStyle) : LogStyle :=
  if s.asMapping then .mapping else plain

/-- The sink of the console under the settings `s`. -/
def consoleSink (s : LoggingSettings) : LogSink := ⟨none, s.style .console⟩

/-- The sink of the file at `place` under the settings `s`. -/
def fileSink (s : LoggingSettings) (place : List String) : LogSink := ⟨some place, s.style .file⟩

/-- The levels of the settings `s`, with the `sinks` that are made for them. -/
def installed (s : LoggingSettings) (sinks : List LogSink) : Logging :=
  ⟨.warning, some s.levelOf, sinks⟩

/-- The file `p` of the settings `s` is opened among the files there are. -/
def openFile (s : LoggingSettings) (p : FilePath) (files : FileTree) :
    ExceptT ConfigFailure (StateM LogState) LogSink :=
  match files.openAt (FilePath.absolute files.cwd p) with
  | .error f => throw (.refused (.logFile s.file.asText f (s.shownPath (files.fullText p))))
  | .ok opened => do
    modify fun t => { t with files := opened }
    return s.fileSink (FilePath.absolute files.cwd p)

/-- The sinks of the settings `s` are made. -/
def makeSinks (s : LoggingSettings) : ExceptT ConfigFailure (StateM LogState) (List LogSink) := do
  match ← liftM s.filePath with
  | none => return [s.consoleSink]
  | some p => return [s.consoleSink, ← s.openFile p (← get).files]

/-- The journal is set up by the settings `s`, step by step: sinks are made, those in use make way
for them, and the levels are set.  With a level goes all that was decided before. -/
def install (s : LoggingSettings) : ExceptT ConfigFailure (StateM LogState) Unit := do
  let sinks ← s.makeSinks
  -- up to here nothing but a new file may have come to be, and from here on nothing can fail
  modify fun t => { t with logging := { t.logging with sinks := [] } }
  modify fun t => { t with logging := { t.logging with sinks := sinks } }
  modify fun t => { t with logging := { t.logging with base := .warning }
                           loggers := { t.loggers with answers := [] } }
  modify fun t => { t with logging := { t.logging with own := some s.levelOf }
                           loggers := { t.loggers with answers := [] } }
  modify fun t => { t with
    loggers := (t.logging.ask applicationName Level.info.number t.loggers).2 }

theorem makeSinks_run {p : FilePath} (h : s.filePath = .ok (some p)) (t : LogState) :
    s.makeSinks.run.run t =
      (s.openFile p t.files >>= fun k => pure [s.consoleSink, k]).run.run t := by
  rw [makeSinks, h]
  rfl

/-! ### The ways it can go -/

theorem configure_broken {e : ConfigFailure} (h : s.filePath = .error e) :
    s.configure files = .error e := by
  rw [configure, h]
  rfl

theorem configure_console (h : s.filePath = .ok none) :
    s.configure files = .ok (s.installed [s.consoleSink], files) := by
  rw [configure, h]
  rfl

theorem configure_refused {p : FilePath} {f : FileFault} (h : s.filePath = .ok (some p))
    (hopen : files.openAt (FilePath.absolute files.cwd p) = .error f) :
    s.configure files =
      .error (.refused (.logFile s.file.asText f (s.shownPath (files.fullText p)))) := by
  simp only [configure, h, bind, Except.bind, hopen]
  rfl

theorem configure_file {p : FilePath} {opened : FileTree} (h : s.filePath = .ok (some p))
    (hopen : files.openAt (FilePath.absolute files.cwd p) = .ok opened) :
    s.configure files = .ok
      (s.installed [s.consoleSink, s.fileSink (FilePath.absolute files.cwd p)], opened) := by
  simp only [configure, h, bind, Except.bind, hopen]
  rfl

/-- However `configure` goes, the levels are those of the settings: the journal is `installed`. -/
theorem exists_installed {l : Logging} {opened : FileTree}
    (h : s.configure files = .ok (l, opened)) : ∃ sinks, l = s.installed sinks := by
  rcases hpath : s.filePath with e | _ | p
  · rw [configure_broken hpath] at h
    cases h
  · rw [configure_console hpath] at h
    cases h
    exact ⟨_, rfl⟩
  · rcases hopen : files.openAt (FilePath.absolute files.cwd p) with f | tree
    · rw [configure_refused hpath hopen] at h
      cases h
    · rw [configure_file hpath hopen] at h
      cases h
      exact ⟨_, rfl⟩

/-- **The journal is set up in one go**: the steps of `install` come to the levels and sinks of the
settings, or they leave everything as it was. -/
theorem install_run (s : LoggingSettings) (t : LogState) :
    s.install.run.run t = t.settle (s.configure t.files) := by
  rcases h : s.filePath with e | _ | p
  · rw [install, makeSinks, h, configure_broken h]
    rfl
  · rw [install, makeSinks, h, configure_console h]
    rfl
  · rcases hopen : t.files.openAt (FilePath.absolute t.files.cwd p) with f | opened
    · rw [configure_refused h hopen, install, run_bind_eq_match, makeSinks_run h, openFile, hopen]
      rfl
    · rw [configure_file h hopen, install, run_bind_eq_match, makeSinks_run h, openFile, hopen]
      rfl

/-- Whatever goes wrong in `install`, nothing has changed. -/
theorem eq_of_install_run_error {e : ConfigFailure} (h : s.install.run.run t = (.error e, u)) :
    u = t := by
  rw [install_run] at h
  obtain ⟨hanswer, hstate⟩ := Prod.mk.inj h
  rcases hconf : s.configure t.files with f | a
  · rw [hconf] at hstate
    exact hstate.symm
  · rw [hconf] at hanswer
    cases hanswer

/-! ## What the journal shows -/

/-- Whether the settings `s` let the record `r` through: records of the program from the level that
is set on, and all others from warnings on. -/
def admits (s : LoggingSettings) (r : LogRecord) : Bool :=
  (if BelongsToProgram r.logger then s.levelOf else .warning).number ≤ r.level

/-- The file of the settings `s`, if they name one, can be opened among `files`. -/
def IsOpenable (s : LoggingSettings) (files : FileTree) : Prop :=
  s.file.truthy = true → ∃ p opened, s.filePath = .ok (some p) ∧
    files.openAt (FilePath.absolute files.cwd p) = .ok opened

/-- The places that records are written to under the settings `s`: the console, and the file if
there is one. -/
def places (s : LoggingSettings) (files : FileTree) : List (Option (List String)) :=
  none :: (s.filePath.toOption.join.map fun p => some (FilePath.absolute files.cwd p)).toList

/-- What the set-up of the journal by the settings `s` is to come to in the state `t`, and the
records that are written afterwards. -/
structure SetsUp (s : LoggingSettings) (t : LogState) (records : List LogRecord) : Prop where
  /-- With the file open, if there is one, all sinks receive what the settings let through. -/
  opened : s.IsOpenable t.files → ∃ u : LogState, s.install.run.run t = (.ok (), u) ∧
    u.logging.sinks.map (·.place) = s.places t.files ∧
    ∀ k ∈ u.logging.sinks, u.received k records = records.filter s.admits
  /-- With a file that cannot be opened, the settings are refused, and nothing has changed. -/
  refused : ¬s.IsOpenable t.files → ∃ e, s.install.run.run t = (.error (.refused e), t)

/-! ### Names of files -/

theorem pathNamed_error {name : String} {e : ConfigFailure} (h : pathNamed name = .error e) :
    ∃ d, e = .broken d := by
  rw [pathNamed] at h
  split at h
  · cases h
    exact ⟨_, rfl⟩
  split at h
  · cases h
    exact ⟨_, rfl⟩
  · cases h

/-- What names no file, by `filePath`, is not taken for a fault of the settings. -/
theorem filePath_error {e : ConfigFailure} (h : s.filePath = .error e) : ∃ d, e = .broken d := by
  have hmap : ∀ {x : Except ConfigFailure FilePath}, x.map some = .error e → x = .error e := by
    intro x hx
    cases x <;> cases hx
    rfl
  rw [filePath] at h
  split at h
  · cases h
  split at h
  · exact pathNamed_error (hmap h)
  · exact pathNamed_error (hmap h)
  · cases h
    exact ⟨_, rfl⟩

/-- No file is named just if no `file` is given. -/
theorem filePath_eq_none_iff : s.filePath = .ok none ↔ s.file.truthy = false := by
  have hmap : ∀ x : Except ConfigFailure FilePath, x.map some ≠ .ok none := by
    intro x hx
    cases x <;> cases hx
  refine ⟨fun h => ?_, fun h => by rw [filePath, h]; rfl⟩
  rw [filePath] at h
  split at h
  · rename_i hnone
    simpa using hnone
  split at h
  · exact absurd h (hmap _)
  · exact absurd h (hmap _)
  · cases h

/-- Where a file is named, or is to be, a `file` is given for it. -/
theorem truthy_of_filePath (h : s.filePath ≠ .ok none) : s.file.truthy = true := by
  rwa [Ne, filePath_eq_none_iff, Bool.not_eq_false] at h

theorem isOpenable_of_console (h : s.filePath = .ok none) : s.IsOpenable files := by
  intro hgiven
  rw [filePath_eq_none_iff.1 h] at hgiven
  cases hgiven

theorem not_isOpenable_of_broken {e : ConfigFailure} (h : s.filePath = .error e) :
    ¬s.IsOpenable files := by
  intro hopenable
  obtain ⟨p, opened, hpath, -⟩ := hopenable (truthy_of_filePath (by rw [h]; rintro ⟨⟩))
  rw [h] at hpath
  cases hpath

theorem not_isOpenable_of_refused {p : FilePath} {f : FileFault} (h : s.filePath = .ok (some p))
    (hopen : files.openAt (FilePath.absolute files.cwd p) = .error f) : ¬s.IsOpenable files := by
  intro hopenable
  obtain ⟨q, opened, hpath, hopened⟩ := hopenable (truthy_of_filePath (by rw [h]; rintro ⟨⟩))
  rw [h] at hpath
  cases hpath
  rw [hopen] at hopened
  cases hopened

/-! ### What is received -/

/-- Where levels are just set, by `setUp`, nothing was decided but by them. -/
theorem isLawful_setUp (s : LoggingSettings) (t : LogState) (sinks : List LogSink)
    (files : FileTree) :
    (t.setUp (s.installed sinks) files).loggers.IsLawful (s.installed sinks) :=
  (Logging.ask_spec (Loggers.isLawful_of_nil rfl) _ _).2

/-- What a sink `k` receives after the journal is set up. -/
theorem received_setUp {sinks : List LogSink} (hnames : ∀ r ∈ records, IsPlainlyNamed r.logger)
    (k : LogSink) :
    (t.setUp (s.installed sinks) files).received k records =
      k.received files t.moves (records.filter s.admits) := by
  have hshown : (s.installed sinks).shown (t.setUp (s.installed sinks) files).loggers records =
      records.filter s.admits :=
    Logging.shown_of_isPlainlyNamed (isLawful_setUp s t sinks files) hnames
  rw [← hshown]
  rfl

/-- The console receives any text, in whichever `style`. -/
theorem takes_console (s : LoggingSettings) (r : LogRecord) :
    (s.style .console).takesRecord r = true := by
  rw [LogStyle.takesRecord, style]
  split
  · exact LogStyle.takes_of_isAscii r.isAscii_mapping _
  · rfl

/-- A file receives any mapping, and otherwise what `LogStyle.file` takes. -/
theorem takes_file_iff (s : LoggingSettings) (r : LogRecord) :
    (s.style .file).takesRecord r = true ↔
      s.asMapping = true ∨ LogStyle.file.takes (r.text .file) = true := by
  rw [LogStyle.takesRecord, style]
  split
  · rename_i hmapping
    exact iff_of_true (LogStyle.takes_of_isAscii r.isAscii_mapping _) (.inl hmapping)
  · rename_i hplain
    rw [or_iff_right hplain]

/-! ### When it comes to that -/

theorem not_setsUp_broken {e : ConfigFailure} (h : s.filePath = .error e) :
    ¬s.SetsUp t records := by
  intro hsets
  obtain ⟨d, rfl⟩ := filePath_error h
  obtain ⟨e, hrun⟩ := hsets.refused (not_isOpenable_of_broken h)
  rw [install_run, configure_broken h] at hrun
  cases congrArg Prod.fst hrun

theorem setsUp_refused {p : FilePath} {f : FileFault} (h : s.filePath = .ok (some p))
    (hopen : t.files.openAt (FilePath.absolute t.files.cwd p) = .error f) :
    s.SetsUp t records where
  opened hopenable := (not_isOpenable_of_refused h hopen hopenable).elim
  refused _ := by
    rw [install_run, configure_refused h hopen]
    exact ⟨_, rfl⟩

/-- Sinks receive what `shown` lets through just if they take it, and have room. -/
theorem opens_iff {sinks : List LogSink}
    (h : s.configure t.files = .ok (s.installed sinks, files))
    (hplaces : sinks.map (·.place) = s.places t.files)
    (hnames : ∀ r ∈ records, IsPlainlyNamed r.logger) :
    (∃ u : LogState, s.install.run.run t = (.ok (), u) ∧
      u.logging.sinks.map (·.place) = s.places t.files ∧ ∀ k ∈ u.logging.sinks,
        u.received k records = records.filter s.admits) ↔
    ∀ k ∈ sinks, (∀ r ∈ records.filter s.admits, k.style.takesRecord r = true) ∧
      k.HasRoom files t.moves (records.filter s.admits) := by
  have hrun : s.install.run.run t = (.ok (), t.setUp (s.installed sinks) files) := by
    rw [install_run, h]
    rfl
  have hreceived : ∀ k : LogSink,
      (t.setUp (s.installed sinks) files).received k records = records.filter s.admits ↔
        (∀ r ∈ records.filter s.admits, k.style.takesRecord r = true) ∧
          k.HasRoom files t.moves (records.filter s.admits) := fun k => by
    rw [received_setUp hnames, LogSink.received_eq_iff]
  constructor
  · rintro ⟨u, hu, -, hall⟩ k hk
    obtain rfl : t.setUp (s.installed sinks) files = u := congrArg Prod.snd (hrun.symm.trans hu)
    exact (hreceived k).1 (hall k hk)
  · exact fun htakes => ⟨_, hrun, hplaces, fun k hk => (hreceived k).2 (htakes k hk)⟩

/-- The `consoleSink` takes everything and has room for it. -/
theorem takes_consoleSink (s : LoggingSettings) (files : FileTree) (moves : List Bool)
    (shown : List LogRecord) :
    (∀ r ∈ shown, s.consoleSink.style.takesRecord r = true) ∧
      s.consoleSink.HasRoom files moves shown :=
  ⟨fun r _ => s.takes_console r, nofun⟩

theorem setsUp_console (h : s.filePath = .ok none)
    (hnames : ∀ r ∈ records, IsPlainlyNamed r.logger) : s.SetsUp t records where
  opened _ := by
    refine (opens_iff (configure_console h) (by rw [places, h]; rfl) hnames).2 fun k hk => ?_
    obtain rfl := List.mem_singleton.1 hk
    exact s.takes_consoleSink _ _ _
  refused hclosed := (hclosed (isOpenable_of_console h)).elim

theorem setsUp_file_iff {p : FilePath} {opened : FileTree} (h : s.filePath = .ok (some p))
    (hopen : t.files.openAt (FilePath.absolute t.files.cwd p) = .ok opened)
    (hnames : ∀ r ∈ records, IsPlainlyNamed r.logger) :
    s.SetsUp t records ↔
      (∀ r ∈ records.filter s.admits,
        s.asMapping = true ∨ LogStyle.file.takes (r.text .file) = true) ∧
      (s.fileSink (FilePath.absolute t.files.cwd p)).HasRoom opened t.moves
        (records.filter s.admits) := by
  have hopenable : s.IsOpenable t.files := fun _ => ⟨p, opened, h, hopen⟩
  have hopens := opens_iff (configure_file h hopen) (by rw [places, h]; rfl) hnames
  constructor
  · intro hsets
    obtain ⟨htakes, hroom⟩ :=
      hopens.1 (hsets.opened hopenable) _ (List.mem_cons_of_mem _ List.mem_cons_self)
    exact ⟨fun r hr => (s.takes_file_iff r).1 (htakes r hr), hroom⟩
  · rintro ⟨htakes, hroom⟩
    refine ⟨fun _ => hopens.2 fun k hk => ?_, (absurd hopenable ·)⟩
    rcases List.mem_pair.1 hk with rfl | rfl
    · exact s.takes_consoleSink _ _ _
    · exact ⟨fun r hr => (s.takes_file_iff r).2 (htakes r hr), hroom⟩

/-- What is let through reaches the file that `opened` has for the settings: it can be written, and
files can be moved whenever it does not fit. -/
def ReachesFile (s : LoggingSettings) (t : LogState) (p : FilePath) (opened : FileTree)
    (records : List LogRecord) : Prop :=
  (∀ r ∈ records.filter s.admits,
    s.asMapping = true ∨ LogStyle.file.takes (r.text .file) = true) ∧
  (s.fileSink (FilePath.absolute t.files.cwd p)).HasRoom opened t.moves (records.filter s.admits)

/-- Where all names are plain, the journal is set up as it should be, by `SetsUp`, just if the name
of the file can be one, and what is let through reaches it if it can be opened. -/
theorem setsUp_iff_of_isPlainlyNamed (hnames : ∀ r ∈ records, IsPlainlyNamed r.logger) :
    s.SetsUp t records ↔ s.filePath.isOk = true ∧ ∀ p opened, s.filePath = .ok (some p) →
      t.files.openAt (FilePath.absolute t.files.cwd p) = .ok opened →
        s.ReachesFile t p opened records := by
  rcases h : s.filePath with e | _ | p
  · exact iff_of_false (not_setsUp_broken h) fun hok => Bool.false_ne_true hok.1
  · exact iff_of_true (setsUp_console h hnames) ⟨rfl, nofun⟩
  · rw [and_iff_right (show (Except.ok (some p) : Except ConfigFailure _).isOk = true from rfl)]
    rcases hopen : t.files.openAt (FilePath.absolute t.files.cwd p) with f | opened
    · refine iff_of_true (setsUp_refused h hopen) fun q opened hq hopened => ?_
      obtain rfl := Option.some.inj (Except.ok.inj hq)
      cases hopen.symm.trans hopened
    · rw [setsUp_file_iff h hopen hnames]
      refine ⟨fun hreaches q opened' hq hopened => ?_, fun hall => hall p opened rfl hopen⟩
      obtain rfl := Option.some.inj (Except.ok.inj hq)
      obtain rfl := Except.ok.inj (hopen.symm.trans hopened)
      exact hreaches

/-- What is `received` of loggers with plain names, whatever comes between them. -/
theorem filter_received (hrun : s.install.run.run t = (.ok (), u)) {k : LogSink}
    (hmoves : k.place.isSome = true → ∀ m ∈ t.moves, m = true) :
    (u.received k records).filter (fun r => IsPlainlyNamed r.logger) =
      (records.filter fun r => IsPlainlyNamed r.logger && s.admits r).filter
        k.style.takesRecord := by
  rw [install_run] at hrun
  rcases hconf : s.configure t.files with f | ⟨l, opened⟩
  · rw [hconf] at hrun
    cases congrArg Prod.fst hrun
  · obtain ⟨sinks, rfl⟩ := exists_installed hconf
    rw [hconf] at hrun
    obtain rfl : t.setUp (s.installed sinks) opened = u := congrArg Prod.snd hrun
    show List.filter _ (k.received opened t.moves _) = _
    rw [LogSink.received_of_hasRoom (LogSink.hasRoom_of_moves hmoves), List.filter_comm]
    exact congrArg _ (Logging.filter_shown (isLawful_setUp s t sinks opened) records)

/-- **The journal is set up as it should be**, by `SetsUp`, where all names of loggers are plain,
just if the name of the file can be one, and what is let through can be written to it, with files
moved aside when they are full.  Where other names come in between, the records of plain ones are
received as before, unless files cannot be moved; and however it goes wrong, nothing has changed. -/
theorem setsUp_iff (s : LoggingSettings) (t : LogState) (records : List LogRecord) :
    ((∀ r ∈ records, IsPlainlyNamed r.logger) → (s.SetsUp t records ↔ s.filePath.isOk = true ∧
      ∀ p opened, s.filePath = .ok (some p) →
        t.files.openAt (FilePath.absolute t.files.cwd p) = .ok opened →
          s.ReachesFile t p opened records)) ∧
    (∀ u, s.install.run.run t = (.ok (), u) → ∀ k ∈ u.logging.sinks,
      (k.place.isSome = true → ∀ m ∈ t.moves, m = true) →
        (u.received k records).filter (fun r => IsPlainlyNamed r.logger) =
          (records.filter fun r => IsPlainlyNamed r.logger && s.admits r).filter
            k.style.takesRecord) ∧
    ∀ e u, s.install.run.run t = (.error e, u) → u = t :=
  ⟨setsUp_iff_of_isPlainlyNamed, fun _ hrun _ _ hmoves => filter_received hrun hmoves,
    fun _ _ => eq_of_install_run_error⟩

/-- Settings with the file `name`, and all else as it is by default. -/
def fileSettings (name : String) : LoggingSettings := { file := .text name }

/-- An entry of `logger` at `level`. -/
def entryOf (logger : String) (level : Level) : LogRecord :=
  ⟨logger, level.number, "a.py", 1, "f", "text", 0, 0⟩

/-- Entries of a part of the program, and of two libraries, one of which has a similar name. -/
def mixedRecords : List LogRecord :=
  [entryOf "redis_vault.cli" .info, entryOf "redis_vaultx" .info, entryOf "boto3" .warning]

/-- The journal before anything is set up, and the files that are there. -/
def freshState : LogState := { logging := {}, loggers := {}, files := ({} : World).files }

/-- A new file can be opened in `freshState`. -/
theorem exists_openAt_freshState : ∃ opened, freshState.files.openAt
    (FilePath.absolute freshState.files.cwd (.ofString "x.log")) = .ok opened := by
  have hopen : (freshState.files.openAt
      (FilePath.absolute freshState.files.cwd (.ofString "x.log"))).isOk = true := by
    decide +kernel
  rcases hopened : freshState.files.openAt
      (FilePath.absolute freshState.files.cwd (.ofString "x.log")) with f | opened
  · rw [hopened] at hopen
    cases hopen
  · exact ⟨opened, rfl⟩

/-- The entry of the part is let through, and so is the warning; the console and the file receive
them both. -/
theorem setsUp_mixedRecords :
    (∀ r ∈ mixedRecords, IsPlainlyNamed r.logger) ∧
      (fileSettings "x.log").IsOpenable freshState.files ∧
      mixedRecords.filter (fileSettings "x.log").admits =
        [entryOf "redis_vault.cli" .info, entryOf "boto3" .warning] ∧
      (fileSettings "x.log").SetsUp freshState mixedRecords := by
  have hnames : ∀ r ∈ mixedRecords, IsPlainlyNamed r.logger := by decide
  obtain ⟨opened, hopened⟩ := exists_openAt_freshState
  exact ⟨hnames, fun _ => ⟨_, opened, rfl, hopened⟩, by decide,
    ((setsUp_iff _ _ _).1 hnames).2 ⟨by decide, fun _ _ _ _ => ⟨by decide,
      LogSink.hasRoom_of_moves fun _ => List.forall_mem_nil _⟩⟩⟩

/-- **None of the conditions of `setsUp_iff` can be left out.**  A name that ends for the system
before it ends is not refused; a record with a half of a character is kept from the file; and a
logger below that of the program is taken for another if two points follow the name of the
program. -/
theorem not_setsUp_endedName :
    (fileSettings "a\x00b").install.run.run freshState = (.error (.broken .endedName), freshState) ∧
      ¬(fileSettings "a\x00b").SetsUp freshState [] ∧
      ¬(fileSettings "x.log").SetsUp freshState
        [{ entryOf "redis_vault" .info with message := String.singleton (Text.ofCode 0xd800) }] ∧
      ¬(fileSettings "").SetsUp freshState [entryOf "redis_vault..x" .info] := by
  have hbroken : (fileSettings "a\x00b").filePath = .error (.broken .endedName) := rfl
  refine ⟨?_, not_setsUp_broken hbroken, fun hsets => ?_, fun hsets => ?_⟩
  · rw [install_run, configure_broken hbroken]
    rfl
  · obtain ⟨opened, hopened⟩ := exists_openAt_freshState
    exact absurd ((setsUp_file_iff rfl hopened (by decide)).1 hsets).1 (by decide)
  · obtain ⟨u, hrun, -, hreceived⟩ := hsets.opened (isOpenable_of_console rfl)
    rw [install_run, configure_console rfl] at hrun
    obtain rfl := congrArg Prod.snd hrun
    exact absurd (hreceived (fileSettings "").consoleSink List.mem_cons_self) (by decide)

end LoggingSettings

end DumpKeeper
