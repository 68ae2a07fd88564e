import DumpKeeper.Proofs.Act

/-!
# Two computations side by side

What two computations have in common is told by what they come to from states that have something in
common: both fail in the same way, or both have an answer.  The computations may be acts in a run,
or any others that may fail and have a state of their own.

* `Agree R a b` — both outcomes are the same failure, or they are answers that `R` relates.
* `ParallelAt S R t u r s` — from `r` and `s`, `t` and `u` come to outcomes that agree, and to
  states that `S` relates.
* `Parallel S R t u` — they do so from all states that `S` relates.  It is kept by all ways of
  putting computations together.
-/

set_option autoImplicit false

namespace DumpKeeper

variable {ε σ α β γ δ : Type}

/-! ## Outcomes -/

/-- The same failure on both sides, or answers of which `R` holds. -/
inductive Agree (R : α → β → Prop) : Except ε α → Except ε β → Prop
  | error (e : ε) : Agree R (.error e) (.error e)
  | ok {a : α} {b : β} (related : R a b) : Agree R (.ok a) (.ok b)

namespace Agree

variable {R : α → β → Prop} {Q : γ → δ → Prop} {x : Except ε α} {y : Except ε β}

theorem refl {R : α → α → Prop} (h : ∀ a, R a a) : ∀ x : Except ε α, Agree R x x
  | .error e => .error e
  | .ok a => .ok (h a)

theorem mono {R' : α → β → Prop} (h : Agree R x y) (hR : ∀ a b, R a b → R' a b) :
    Agree R' x y := by
  cases h with
  | error e => exact .error e
  | ok related => exact .ok (hR _ _ related)

/-- Outcomes that agree in all of their answers, by `Agree Eq`, are the same. -/
theorem eq {x y : Except ε α} (h : Agree Eq x y) : x = y := by
  cases h with
  | error e => rfl
  | ok related => rw [related]

theorem of_eq {x y : Except ε α} (h : x = y) : Agree Eq x y := h ▸ refl (fun _ => rfl) x

theorem bind {f : α → Except ε γ} {g : β → Except ε δ} (h : Agree R x y)
    (hf : ∀ a b, R a b → Agree Q (f a) (g b)) : Agree Q (x >>= f) (y >>= g) := by
  cases h with
  | error e => exact .error e
  | ok related => exact hf _ _ related

/-- One computation `x`, and what `f` and `g` do with its answer on either side. -/
theorem bind_left {f : α → Except ε γ} {g : α → Except ε δ} (x : Except ε α)
    (hf : ∀ a, Agree Q (f a) (g a)) : Agree Q (x >>= f) (x >>= g) := by
  refine (refl (R := Eq) (fun _ => rfl) x).bind fun a b h => ?_
  cases h
  exact hf a

theorem map {f : α → γ} {g : β → δ} (h : Agree R x y) (hf : ∀ a b, R a b → Q (f a) (g b)) :
    Agree Q (x.map f) (y.map g) := by
  cases h with
  | error e => exact .error e
  | ok related => exact .ok (hf _ _ related)

/-- Outcomes agree as far as what `f` and `g` make of them does. -/
theorem of_map {f : α → γ} {g : β → δ} (h : Agree Q (x.map f) (y.map g)) :
    Agree (fun a b => Q (f a) (g b)) x y := by
  rcases x with e | a
  · rcases y with e' | b
    · cases h
      exact .error e
    · cases h
  · rcases y with e' | b
    · cases h
    · cases h with
      | ok related => exact .ok related

theorem mapError {ε' : Type} (f : ε → ε') (h : Agree R x y) :
    Agree R (x.mapError f) (y.mapError f) := by
  cases h with
  | error e => exact .error (f e)
  | ok related => exact .ok related

/-- A failure `e` on one side comes with the same on the other. -/
theorem eq_error {e : ε} (h : Agree R (.error e) y) : y = .error e := by
  cases h
  rfl

/-- Answers that are related by `R` are told with the outcome that they are answers of. -/
theorem and_eq_ok (h : Agree R x y) : Agree (fun a b => x = .ok a ∧ R a b) x y := by
  cases h with
  | error e => exact .error e
  | ok related => exact .ok ⟨rfl, related⟩

/-- An answer `a` on one side comes with one on the other. -/
theorem exists_ok {a : α} (h : Agree R (.ok a) y) : ∃ b, y = .ok b ∧ R a b := by
  cases h with
  | ok related => exact ⟨_, rfl, related⟩

end Agree

/-! ## Computations -/

/-- From two states the computations come to outcomes that agree, and to states that `S` relates. -/
def ParallelAt (S : σ → σ → Prop) (R : α → β → Prop) (t : ExceptT ε (StateM σ) α)
    (u : ExceptT ε (StateM σ) β) (r s : σ) : Prop :=
  Agree R (t.run.run r).1 (u.run.run s).1 ∧ S (t.run.run r).2 (u.run.run s).2

/-- The computations do so from any states that `S` relates. -/
def Parallel (S : σ → σ → Prop) (R : α → β → Prop) (t : ExceptT ε (StateM σ) α)
    (u : ExceptT ε (StateM σ) β) : Prop :=
  ∀ r s, S r s → ParallelAt S R t u r s

variable {S : σ → σ → Prop} {R : α → β → Prop} {Q : γ → δ → Prop}

namespace ParallelAt

/-- **Computations in a row** go side by side one by one: `t` with `u`, and then `f a` with `g
b`. -/
theorem bind {t : ExceptT ε (StateM σ) α} {u : ExceptT ε (StateM σ) β}
    {f : α → ExceptT ε (StateM σ) γ} {g : β → ExceptT ε (StateM σ) δ} {r s : σ}
    (h : ParallelAt S R t u r s) (hf : ∀ a b, R a b → Parallel S Q (f a) (g b)) :
    ParallelAt S Q (t >>= f) (u >>= g) r s := by
  obtain ⟨hrs, hs⟩ := h
  rw [ParallelAt, run_bind_eq_match, run_bind_eq_match]
  rcases ht : t.run.run r with ⟨x, r'⟩
  rcases hu : u.run.run s with ⟨y, s'⟩
  rw [ht, hu] at hrs hs
  cases hrs with
  | error e => exact ⟨.error e, hs⟩
  | ok related => exact hf _ _ related r' s' hs

theorem get_bind {f : σ → ExceptT ε (StateM σ) α} {g : σ → ExceptT ε (StateM σ) β} {r s : σ}
    (h : ParallelAt S R (f r) (g s) r s) : ParallelAt S R (get >>= f) (get >>= g) r s := h

end ParallelAt

namespace Parallel

theorem pure {a : α} {b : β} (h : R a b) :
    Parallel S R (pure a : ExceptT ε (StateM σ) α) (pure b) := fun _ _ hs => ⟨.ok h, hs⟩

theorem throw (e : ε) : Parallel S R (throw e : ExceptT ε (StateM σ) α) (throw e) :=
  fun _ _ hs => ⟨.error e, hs⟩

/-- **Computations in a row**, `t >>= f` and `u >>= g`, go side by side one by one. -/
theorem bind {t : ExceptT ε (StateM σ) α} {u : ExceptT ε (StateM σ) β}
    {f : α → ExceptT ε (StateM σ) γ} {g : β → ExceptT ε (StateM σ) δ} (h : Parallel S R t u)
    (hf : ∀ a b, R a b → Parallel S Q (f a) (g b)) : Parallel S Q (t >>= f) (u >>= g) :=
  fun r s hs => (h r s hs).bind hf

/-- Computations in a row whose first ones, `t` and `u`, answer the same. -/
theorem bind_eq {t u : ExceptT ε (StateM σ) α} {f : α → ExceptT ε (StateM σ) γ}
    {g : α → ExceptT ε (StateM σ) δ} (h : Parallel S Eq t u)
    (hf : ∀ a, Parallel S Q (f a) (g a)) : Parallel S Q (t >>= f) (u >>= g) := by
  refine h.bind fun a b hab => ?_
  cases hab
  exact hf a

theorem mono {R' : α → β → Prop} {t : ExceptT ε (StateM σ) α} {u : ExceptT ε (StateM σ) β}
    (h : Parallel S R t u) (hR : ∀ a b, R a b → R' a b) : Parallel S R' t u := fun r s hs =>
  ⟨(h r s hs).1.mono hR, (h r s hs).2⟩

theorem get_bind {f : σ → ExceptT ε (StateM σ) α} {g : σ → ExceptT ε (StateM σ) β}
    (h : ∀ r s, S r s → Parallel S R (f r) (g s)) : Parallel S R (get >>= f) (get >>= g) :=
  fun r s hs => h r s hs r s hs

theorem modify {f g : σ → σ} (h : ∀ r s, S r s → S (f r) (g s)) :
    Parallel S Eq (modify f : ExceptT ε (StateM σ) PUnit) (modify g) := fun r s hs =>
  ⟨.ok rfl, h r s hs⟩

theorem liftM {x : Except ε α} {y : Except ε β} (h : Agree R x y) :
    Parallel S R (liftM x : ExceptT ε (StateM σ) α) (liftM y) := by
  cases h with
  | error e => exact throw e
  | ok related => exact pure related

/-- A computation `t` goes along with itself. -/
theorem refl (t : ExceptT ε (StateM σ) α) : Parallel Eq Eq t t := fun r s hs => by
  cases hs
  exact ⟨.of_eq rfl, rfl⟩

/-- Computations that go side by side in the same states, with the same outcomes, are the same:
`Parallel Eq Eq`. -/
theorem eq {t u : ExceptT ε (StateM σ) α} (h : Parallel Eq Eq t u) : t = u :=
  funext fun s => Prod.ext (h s s rfl).1.eq (h s s rfl).2

theorem ite {c : Prop} [Decidable c] {t t' : ExceptT ε (StateM σ) α}
    {u u' : ExceptT ε (StateM σ) β} (ht : Parallel S R t u) (hu : Parallel S R t' u') :
    Parallel S R (if c then t else t') (if c then u else u') := by
  split
  · exact ht
  · exact hu

theorem forM {f g : α → ExceptT ε (StateM σ) PUnit} {items : List α}
    (h : ∀ a ∈ items, Parallel S Eq (f a) (g a)) : Parallel S Eq (items.forM f) (items.forM g) := by
  induction items with
  | nil => exact pure rfl
  | cons a rest ih =>
    exact (h a List.mem_cons_self).bind_eq fun _ => ih fun b hb => h b (List.mem_cons_of_mem _ hb)

/-! ### Acts -/

section Acts

variable {S : Run → Run → Prop} {t : Act α} {u : Act β}

/-- Acts go side by side if they do so `on` any two runs. -/
theorem of_on (h : ∀ r s, S r s → Agree R (t.on r).1 (u.on s).1 ∧ S (t.on r).2 (u.on s).2) :
    Parallel S R t u := h

theorem on (h : Parallel S R t u) {r s : Run} (hs : S r s) :
    Agree R (t.on r).1 (u.on s).1 ∧ S (t.on r).2 (u.on s).2 := h r s hs

theorem fail (f : Failure) : Parallel S R (fail f : Act α) (fail f : Act β) := throw f

/-- Outcomes of `t` and `u` that are handed over. -/
theorem attempt (h : Parallel S R t u) : Parallel S (Agree R) (attempt t) (attempt u) :=
  fun r s hs => ⟨.ok (h r s hs).1, (h r s hs).2⟩

theorem attempt_at {r s : Run} (h : ParallelAt S R t u r s) :
    ParallelAt S (Agree R) (DumpKeeper.attempt t) (DumpKeeper.attempt u) r s := ⟨.ok h.1, h.2⟩

/-- Failures of `t` and `u` that are passed on in the same way. -/
theorem relaying {counts : ServiceFault → Bool} {report : ServiceFault → Failure}
    (h : Parallel S R t u) :
    Parallel S R (t.relaying counts report) (u.relaying counts report) :=
  .of_on fun r s hs => by
    rw [Act.on_relaying, Act.on_relaying]
    exact ⟨(h.on hs).1.mapError _, (h.on hs).2⟩

/-- What `f` and `g` do with outcomes that are handed over, if they are the same. -/
theorem attempt_bind {u : Act α} {f : Except Failure α → Act γ} {g : Except Failure α → Act δ}
    (h : Parallel S Eq t u) (hf : ∀ x, Parallel S Q (f x) (g x)) :
    Parallel S Q (DumpKeeper.attempt t >>= f) (DumpKeeper.attempt u >>= g) :=
  h.attempt.bind fun x y hxy => by
    rw [hxy.eq]
    exact hf y

end Acts

end Parallel

end DumpKeeper
