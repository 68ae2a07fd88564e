import DumpKeeper.LogFiles

/-!
# What files of entries hold

A line is written unless the file does not take it, or is full and cannot be moved aside.  What is
written stays at the end of what the files hold together, and only what is older than ten files is
lost.

* `LogFiles.attempts` — how often files are to be moved while lines come.
* `LogFiles.receive_eq_iff` — whether all lines are written.
* `LogFiles.held` — what the files hold together, the oldest file first.
* `LogFiles.held_emit`, `LogFiles.held_receive` — what becomes of it with one line, and with many.
-/

set_option autoImplicit false

namespace DumpKeeper

namespace LogFiles

variable {α : Type} {line : α → String} {takes : α → Bool} {f : LogFiles} {text : String}
  {taken : Bool}

/-! ## One line -/

/-- A line `text` that fits is written if it is `taken`. -/
theorem emit_of_fits (h : f.isFull text = false) :
    f.emit text taken = (taken, if taken then f.append text else f) := by
  rw [emit, h]
  rfl

/-- For a line `text` that does not fit, files are moved first. -/
theorem emit_of_canMove (h : f.isFull text = true) (hmove : f.canMove = true) :
    f.emit text taken = (taken,
      if taken then ({ f with moves := f.moves.tail } : LogFiles).rollOver.append text
      else ({ f with moves := f.moves.tail } : LogFiles).rollOver) := by
  rw [emit, if_pos h, hmove]
  rfl

/-- If the files cannot be moved, by `canMove`, the line is lost. -/
theorem emit_of_stuck (h : f.isFull text = true) (hmove : f.canMove = false) :
    f.emit text taken = (false, { f with moves := f.moves.tail }) := by
  rw [emit, if_pos h, hmove]
  rfl

/-- **The line `text` is written** just if it is taken, and files can be moved where they have to
be. -/
theorem emit_fst (f : LogFiles) (text : String) (taken : Bool) :
    (f.emit text taken).1 = true ↔ taken = true ∧ (f.isFull text = true → f.canMove = true) := by
  cases hfull : f.isFull text with
  | false => simp [emit_of_fits hfull]
  | true =>
    cases hmove : f.canMove with
    | true => simp [emit_of_canMove hfull hmove]
    | false => simp [emit_of_stuck hfull hmove]

/-- One attempt of `moves` is made for a line that does not fit, and none for one that does. -/
theorem emit_moves (f : LogFiles) (text : String) (taken : Bool) :
    (f.emit text taken).2.moves = if f.isFull text then f.moves.tail else f.moves := by
  cases hfull : f.isFull text with
  | false =>
    rw [emit_of_fits hfull]
    cases taken <;> rfl
  | true =>
    cases hmove : f.canMove with
    | true =>
      rw [emit_of_canMove hfull hmove]
      cases taken <;> rfl
    | false => rw [emit_of_stuck hfull hmove, if_pos rfl]

/-! ## Many lines -/

theorem receive_cons (line : α → String) (takes : α → Bool) (f : LogFiles) (a : α)
    (rest : List α) :
    f.receive line takes (a :: rest) =
      (if (f.emit (line a) (takes a)).1 then
          a :: ((f.emit (line a) (takes a)).2.receive line takes rest).1
        else ((f.emit (line a) (takes a)).2.receive line takes rest).1,
        ((f.emit (line a) (takes a)).2.receive line takes rest).2) := rfl

/-- What `receive` writes did come, and nothing of it twice or in another order. -/
theorem receive_sublist (line : α → String) (takes : α → Bool) (f : LogFiles) (items : List α) :
    (f.receive line takes items).1.Sublist items := by
  induction items generalizing f with
  | nil => exact List.Sublist.refl _
  | cons a rest ih =>
    rw [receive_cons]
    dsimp only
    split
    · exact (ih _).cons_cons a
    · exact (ih _).cons a

/-- How often files are to be moved while the lines of some items come, of which `takes` tells
whether they are taken. -/
def attempts (line : α → String) (takes : α → Bool) : LogFiles → List α → Nat
  | _, [] => 0
  | f, a :: rest =>
    let behind := attempts line takes (f.emit (line a) (takes a)).2 rest
    if f.isFull (line a) then behind + 1 else behind

/-- The `attempts` that are made for one line and those after it all succeed just if that for the
line does, and the others. -/
theorem forall_attempts_cons {a : α} {rest : List α} :
    (∀ m ∈ f.moves.take (f.attempts line takes (a :: rest)), m = true) ↔
      (f.isFull (line a) = true → f.canMove = true) ∧
        ∀ m ∈ (f.emit (line a) (takes a)).2.moves.take
          ((f.emit (line a) (takes a)).2.attempts line takes rest), m = true := by
  rw [attempts, emit_moves]
  cases f.isFull (line a) with
  | false => simp
  | true =>
    rw [if_pos rfl, if_pos rfl, canMove]
    cases f.moves with
    | nil => simp
    | cons m moves => simp

/-- **All lines are written** just if `takes` takes all `items`, and files can be moved whenever one
of their lines does not fit. -/
theorem receive_eq_iff (f : LogFiles) (items : List α) :
    (f.receive line takes items).1 = items ↔
      (∀ a ∈ items, takes a = true) ∧
        ∀ m ∈ f.moves.take (f.attempts line takes items), m = true := by
  induction items generalizing f with
  | nil => simp [receive, attempts]
  | cons a rest ih =>
    rw [receive_cons, forall_attempts_cons, List.forall_mem_cons, and_and_and_comm, ← emit_fst,
      ← ih]
    dsimp only
    split
    · rename_i hwritten
      rw [List.cons_inj_right, and_iff_right hwritten]
    · rename_i hlost
      -- one line fewer is left than there should be
      refine iff_of_false (fun heq => ?_) fun h => hlost h.1
      have hlen := (receive_sublist line takes (f.emit (line a) (takes a)).2 rest).length_le
      rw [heq, List.length_cons] at hlen
      omega

/-- Where files can be moved whenever they have to be, what `takes` lets through is written. -/
theorem receive_of_moves {items : List α}
    (h : ∀ m ∈ f.moves.take (f.attempts line takes items), m = true) :
    (f.receive line takes items).1 = items.filter takes := by
  induction items generalizing f with
  | nil => rfl
  | cons a rest ih =>
    obtain ⟨hmove, hrest⟩ := forall_attempts_cons.1 h
    have hwritten : (f.emit (line a) (takes a)).1 = takes a :=
      Bool.eq_iff_iff.2 ((emit_fst f (line a) (takes a)).trans (and_iff_left hmove))
    rw [receive_cons, ih hrest, List.filter_cons, hwritten]

/-! ## What the files hold -/

/-- The bytes of a content. -/
def bytesOf (content : ByteArray) : List UInt8 := content.data.toList

/-- What the files of `f` hold together, the oldest file first. -/
def held (f : LogFiles) : List UInt8 := (f.older.reverse ++ [f.current]).flatMap bytesOf

/-- The bytes of the lines of some `items` that are written. -/
def written (line : α → String) (items : List α) : List UInt8 :=
  items.flatMap fun a => bytesOf (line a).toUTF8

/-- A line that is `taken` is `held` behind all else. -/
theorem held_append (f : LogFiles) (text : String) (taken : Bool) :
    (if taken then f.append text else f).held =
      f.held ++ if taken then bytesOf text.toUTF8 else [] := by
  cases taken with
  | false => exact (List.append_nil _).symm
  | true => simp [held, append, bytesOf]

/-- A new file holds nothing, and the oldest one may be gone: `held` of what is left. -/
theorem held_rollOver (f : LogFiles) :
    f.rollOver.held <:+ f.held ∧
      (f.older.length < keptLogFiles → f.rollOver.held = f.held) := by
  have hall : f.held = ((f.current :: f.older).reverse).flatMap bytesOf := by
    rw [held, List.reverse_cons]
  have hnew : f.rollOver.held =
      (((f.current :: f.older).take keptLogFiles).reverse).flatMap bytesOf := by
    rw [held, rollOver, List.flatMap_append, List.flatMap_singleton]
    exact List.append_nil _
  rw [hall, hnew]
  constructor
  · have hcut : (f.current :: f.older).reverse =
        ((f.current :: f.older).drop keptLogFiles).reverse ++
          ((f.current :: f.older).take keptLogFiles).reverse := by
      rw [← List.reverse_append, List.take_append_drop]
    rw [hcut, List.flatMap_append]
    exact List.suffix_append _ _
  · intro hroom
    rw [List.take_of_length_le (by rw [List.length_cons]; exact hroom)]

/-- Of the content `all`, what is `kept` stands in front of what comes `behind`. -/
theorem suffix_append {kept all : List UInt8} (h : kept <:+ all) (behind : List UInt8) :
    kept ++ behind <:+ all ++ behind := by
  obtain ⟨gone, rfl⟩ := h
  exact ⟨gone, (List.append_assoc gone kept behind).symm⟩

/-- The bytes by which the files of `f` hold more once the line `text` came. -/
def gained (f : LogFiles) (text : String) (taken : Bool) : List UInt8 :=
  if (f.emit text taken).1 then bytesOf text.toUTF8 else []

/-- **With one line** the files hold what they held and, if it is written, the line at the end, but
for what was too old; and nothing is too old as long as there is room for another file, that is less
than `keptLogFiles`. -/
theorem held_emit (f : LogFiles) (text : String) (taken : Bool) :
    (f.emit text taken).2.held <:+ f.held ++ f.gained text taken ∧
      ((f.isFull text = true → f.older.length < keptLogFiles) →
        (f.emit text taken).2.held = f.held ++ f.gained text taken) := by
  rw [gained]
  cases hfull : f.isFull text with
  | false =>
    rw [emit_of_fits hfull, held_append]
    exact ⟨List.suffix_rfl, fun _ => rfl⟩
  | true =>
    cases hmove : f.canMove with
    | true =>
      obtain ⟨hsuffix, heq⟩ := held_rollOver { f with moves := f.moves.tail }
      rw [emit_of_canMove hfull hmove, held_append]
      exact ⟨suffix_append hsuffix _, fun hroom => congrArg (· ++ _) (heq (hroom rfl))⟩
    | false =>
      have hsame : ({ f with moves := f.moves.tail } : LogFiles).held = f.held := rfl
      rw [emit_of_stuck hfull hmove, if_neg Bool.false_ne_true, List.append_nil, hsame]
      exact ⟨List.suffix_rfl, fun _ => rfl⟩

/-- There is one file more at most in `older`, and never more than `keptLogFiles`. -/
theorem length_older_emit (f : LogFiles) (text : String) (taken : Bool) :
    ((f.emit text taken).2.older.length ≤ if f.isFull text then f.older.length + 1
      else f.older.length) ∧
      (f.older.length ≤ keptLogFiles → (f.emit text taken).2.older.length ≤ keptLogFiles) := by
  have hput : ∀ g : LogFiles, (if taken then g.append text else g).older = g.older := by
    cases taken <;> exact fun _ => rfl
  cases hfull : f.isFull text with
  | false =>
    rw [emit_of_fits hfull, hput]
    exact ⟨Nat.le_refl _, id⟩
  | true =>
    cases hmove : f.canMove with
    | true =>
      rw [emit_of_canMove hfull hmove, hput, rollOver, List.length_take, List.length_cons]
      exact ⟨Nat.min_le_right _ _, fun _ => Nat.min_le_left _ _⟩
    | false =>
      rw [emit_of_stuck hfull hmove]
      exact ⟨Nat.le_succ _, id⟩

theorem written_receive_cons (line : α → String) (takes : α → Bool) (f : LogFiles) (a : α)
    (rest : List α) :
    written line (f.receive line takes (a :: rest)).1 =
      f.gained (line a) (takes a) ++
        written line ((f.emit (line a) (takes a)).2.receive line takes rest).1 := by
  rw [receive_cons, gained]
  cases (f.emit (line a) (takes a)).1 <;> rfl

/-- **With many lines** the files hold what they held and then all that is `written`, but for what
was too old.  Nothing is, until there are more older files than `keptLogFiles`. -/
theorem held_receive (line : α → String) (takes : α → Bool) (f : LogFiles) (items : List α) :
    (f.receive line takes items).2.held <:+
        f.held ++ written line (f.receive line takes items).1 ∧
      (f.older.length + f.attempts line takes items ≤ keptLogFiles →
        (f.receive line takes items).2.held =
          f.held ++ written line (f.receive line takes items).1) := by
  induction items generalizing f with
  | nil =>
    have hnone : written line (f.receive line takes []).1 = [] := rfl
    rw [hnone, List.append_nil]
    exact ⟨List.suffix_rfl, fun _ => rfl⟩
  | cons a rest ih =>
    obtain ⟨hsuffix, heq⟩ := held_emit f (line a) (takes a)
    obtain ⟨hrest, hrestEq⟩ := ih (f.emit (line a) (takes a)).2
    have holder := (length_older_emit f (line a) (takes a)).1
    rw [written_receive_cons, ← List.append_assoc]
    refine ⟨hrest.trans (suffix_append hsuffix _), fun hroom => ?_⟩
    -- the line and those behind it share the room that there is
    rw [attempts] at hroom
    cases hfull : f.isFull (line a) with
    | false =>
      rw [hfull, if_neg Bool.false_ne_true] at hroom holder
      exact (hrestEq (by omega)).trans (congrArg (· ++ _) (heq fun h => nomatch hfull.symm.trans h))
    | true =>
      rw [hfull, if_pos rfl] at hroom holder
      exact (hrestEq (by omega)).trans (congrArg (· ++ _) (heq fun _ => by omega))

/-- There are never more files in `older` than `keptLogFiles`. -/
theorem length_older_receive_le (items : List α) (h : f.older.length ≤ keptLogFiles) :
    (f.receive line takes items).2.older.length ≤ keptLogFiles := by
  induction items generalizing f with
  | nil => exact h
  | cons a rest ih => exact ih ((length_older_emit f (line a) (takes a)).2 h)

end LogFiles

end DumpKeeper
