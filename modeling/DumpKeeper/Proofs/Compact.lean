import DumpKeeper.Proofs.Calendar
import DumpKeeper.Proofs.Spelling

/-!
# Compact texts of durations

The compact text of a duration can be read again.  It is made of parts, each a number and the letter
of a unit, and every part in front of a text that tells some seconds makes a text that tells those
of the part besides; so the text of a duration of whole seconds spells terms that come to its
length.

* `natOfDigits_toDigits` — the digits of a number spell it.
* `Tells`, `Tells.part` — texts that tell a number of seconds, and one more part in front of one.
* `tells_compact` — the compact text tells the seconds of the duration.
* `parse_compact` — the duration comes back, and texts are different if durations are.
-/

set_option autoImplicit false

namespace DumpKeeper.Duration

open Text

/-! ## Numbers -/

theorem digitValue?_digitChar {d : Nat} (h : d < 10) : digitValue? d.digitChar = some d := by
  have hall : ∀ d < 10, digitValue? d.digitChar = some d := by decide
  exact hall d h

/-- **The digits of `n` spell it.** -/
theorem natOfDigits_toDigits (n : Nat) :
    natOfDigits ((Nat.toDigits 10 n).filterMap digitValue?) = n := by
  induction n using Nat.strongRecOn with
  | ind n ih =>
    rcases Nat.lt_or_ge n 10 with hn | hn
    · rw [Nat.toDigits_of_lt_base hn]
      simp [digitValue?_digitChar hn, natOfDigits]
    · have hlast := digitValue?_digitChar (Nat.mod_lt n (by decide))
      rw [Nat.toDigits_of_base_le (by decide) hn, List.filterMap_append,
        List.filterMap_cons_some hlast, List.filterMap_nil, natOfDigits_concat, ih _ (by omega)]
      omega

theorem isDigit_of_mem_toDigits {n : Nat} {c : Char} (h : c ∈ Nat.toDigits 10 n) :
    isDigit c = true := by
  have hdigit := Nat.isDigit_of_mem_toDigits (by decide) (by decide) h
  refine forall_ascii (P := fun c => c.isDigit = true → isDigit c = true) (by decide +kernel) ?_
    hdigit
  simp only [Char.isDigit, Bool.and_eq_true, decide_eq_true_eq, UInt32.le_iff_toNat_le] at hdigit
  change 48 ≤ c.toNat ∧ c.toNat ≤ 57 at hdigit
  omega

/-! ## Parts -/

theorem toList_part {k : Nat} (hk : k ≠ 0) (letter : Char) :
    (part k letter).toList = Nat.toDigits 10 k ++ [letter] := by
  have htext : toString (k : Int) = Nat.repr k := rfl
  rw [part, if_neg (by omega), htext, String.toList_append, Nat.toList_repr]
  simp

/-- The text `cs` tells `n` seconds: it spells terms of that length, has no blanks, and does not
begin with a letter, which would be taken for one of the unit before it. -/
structure Tells (cs : List Char) (n : Nat) : Prop where
  terms : ∃ ts, Spells cs ts ∧ (∀ t ∈ ts, t.unit ≠ .millisecond) ∧ secondsOf ts = n
  dense : ∀ c ∈ cs, isBlank c = false
  head : ∀ c ∈ cs.head?, isLetter c = false

theorem tells_nil : Tells [] 0 where
  terms := ⟨[], .nil (by simp), by simp, rfl⟩
  dense := by simp
  head := by simp

variable {cs : List Char} {n k factor : Nat} {u : Unit} {letter : Char}

/-- A number `k` and the `letter` of a unit in front of the text `cs`. -/
theorem Tells.cons (h : Tells cs n) (hletter : isLetter letter = true)
    (hnamed : Unit.named? [letter] = some u) (hfactor : u.seconds? = some factor) :
    Tells (Nat.toDigits 10 k ++ letter :: cs) (k * factor + n) := by
  obtain ⟨ts, hspells, hunits, hseconds⟩ := h.terms
  have hgroup : IsGroup (Nat.toDigits 10 k) [] [letter] cs :=
    { digits_ne := Nat.toDigits_ne_nil
      digits := fun c => isDigit_of_mem_toDigits
      inner := by simp
      unit_ne := by simp
      unit := by simpa using hletter
      rest := h.head }
  refine ⟨⟨⟨k, u⟩ :: ts, ?_, ?_, ?_⟩, ?_, ?_⟩
  · have hcons : Spells ([] ++ (Nat.toDigits 10 k ++ ([] ++ ([letter] ++ cs)))) _ :=
      .cons (by simp) hgroup hnamed hspells
    rwa [natOfDigits_toDigits] at hcons
  · rintro t (_ | ⟨_, ht⟩)
    · rintro rfl
      cases hfactor
    · exact hunits t ht
  · rw [secondsOf, List.map_cons, List.sum_cons, hfactor, ← hseconds]
    rfl
  · intro c hc
    rcases List.mem_append.1 hc with hc | hc
    · exact (of_isDigit (isDigit_of_mem_toDigits hc)).1
    · rcases List.mem_cons.1 hc with rfl | hc
      · exact isBlank_of_isLetter hletter
      · exact h.dense c hc
  · intro c hc
    refine (of_isDigit (isDigit_of_mem_toDigits (n := k) ?_)).2
    rw [List.head?_append_of_ne_nil _ Nat.toDigits_ne_nil] at hc
    exact List.mem_of_mem_head? hc

/-- A `part` in front of the text `cs`, unless it is left out. -/
theorem Tells.part (h : Tells cs n) (hletter : isLetter letter = true)
    (hnamed : Unit.named? [letter] = some u) (hfactor : u.seconds? = some factor) (k : Nat) :
    Tells ((part k letter).toList ++ cs) (k * factor + n) := by
  by_cases hk : k = 0
  · subst hk
    rw [Nat.zero_mul, Nat.zero_add]
    exact h
  · rw [toList_part hk, List.append_assoc, List.singleton_append]
    exact h.cons hletter hnamed hfactor

/-! ## Compact texts -/

theorem wholeSeconds_ofSeconds (n : Nat) : (ofSeconds n).wholeSeconds = n := by
  have habs : ((n : Int) * microsPerSecond).natAbs = n * microsPerSecond := by
    rw [← Nat.cast_mul, Int.natAbs_natCast]
  have hpos : ¬(n : Int) * microsPerSecond < 0 :=
    Int.not_lt.2 (mul_nonneg (Int.natCast_nonneg n) (by decide))
  rw [wholeSeconds, ofSeconds]
  dsimp only
  rw [habs, wholePart_mul, if_neg hpos]

/-- The parts of `n` seconds, largest first. -/
theorem compact_ofSeconds {n : Nat} (hn : n ≠ 0) :
    (ofSeconds n).compact = part (n / 86400 : Nat) 'd' ++ part (n % 86400 / 3600 : Nat) 'h' ++
      part (n % 3600 / 60 : Nat) 'm' ++ part (n % 60 : Nat) 's' := by
  rw [compact, wholeSeconds_ofSeconds, if_neg (by omega)]
  rfl

/-- **The compact text of `n` seconds tells them.** -/
theorem tells_compact (n : Nat) : Tells (ofSeconds n).compact.toList n := by
  rcases Nat.eq_zero_or_pos n with rfl | hpos
  · have hzero : Tells (Nat.toDigits 10 0 ++ 's' :: []) (0 * 1 + 0) :=
      tells_nil.cons rfl (u := .second) (by decide) rfl
    exact hzero
  · have hs := tells_nil.part rfl (by decide : Unit.named? ['s'] = some .second) rfl (n % 60)
    have hm := hs.part rfl (by decide : Unit.named? ['m'] = some .minute) rfl (n % 3600 / 60)
    have hh := hm.part rfl (by decide : Unit.named? ['h'] = some .hour) rfl (n % 86400 / 3600)
    have hd := hh.part rfl (by decide : Unit.named? ['d'] = some .day) rfl (n / 86400)
    have hsum : n / 86400 * 86400 + (n % 86400 / 3600 * 3600 + (n % 3600 / 60 * 60 +
        (n % 60 * 1 + 0))) = n := by omega
    rw [hsum] at hd
    rw [compact_ofSeconds hpos.ne']
    simpa only [String.toList_append, List.append_assoc, List.append_nil] using hd

theorem length_part_le {k : Nat} (hk : k < 10 ^ 20) (letter : Char) :
    (part k letter).toList.length ≤ 21 := by
  by_cases hzero : k = 0
  · rw [hzero]
    exact Nat.zero_le _
  · have hdigits := (Nat.length_toDigits_le_iff (by decide) (by decide)).2 hk
    rw [toList_part hzero, List.length_append, List.length_singleton]
    omega

theorem length_compact_le {n : Nat} (hn : n < secondBound) :
    (ofSeconds n).compact.toList.length ≤ 300 := by
  rcases Nat.eq_zero_or_pos n with rfl | hpos
  · decide
  · have hbound : secondBound = 86400000000000 := rfl
    have hd := length_part_le (show n / 86400 < 10 ^ 20 by omega) 'd'
    have hh := length_part_le (show n % 86400 / 3600 < 10 ^ 20 by omega) 'h'
    have hm := length_part_le (show n % 3600 / 60 < 10 ^ 20 by omega) 'm'
    have hs := length_part_le (show n % 60 < 10 ^ 20 by omega) 's'
    rw [compact_ofSeconds hpos.ne']
    simp only [String.toList_append, List.length_append]
    omega

/-! ## There and back -/

/-- The text `cs` is trimmed if it has no blanks. -/
theorem trim_eq_self {cs : List Char} (h : ∀ c ∈ cs, isBlank c = false) : trim cs = cs := by
  have hdrop : ∀ l : List Char, (∀ c ∈ l, isBlank c = false) → l.dropWhile isBlank = l := by
    rintro (_ | ⟨c, l⟩) hl
    · rfl
    · rw [List.dropWhile_cons_of_neg (by simp [hl c List.mem_cons_self])]
  rw [trim, trimEnd, dropEndWhile, hdrop cs h,
    hdrop cs.reverse fun c hc => h c (List.mem_reverse.1 hc), List.reverse_reverse]

/-- What `text` tells is read by `parse`. -/
theorem Tells.parse {text : String} {n : Nat} (h : Tells text.toList n) (hne : text.toList ≠ [])
    (hlength : text.toList.length ≤ 300) (hn : n < secondBound) :
    Duration.parse text = .ok (ofSeconds n) := by
  obtain ⟨ts, hspells, hunits, hseconds⟩ := h.terms
  have hterms : ts ≠ [] := by
    rintro rfl
    obtain ⟨c, cs, hcs⟩ := List.exists_cons_of_ne_nil hne
    have hc : c ∈ text.toList := hcs ▸ List.mem_cons_self
    have hblank := spells_nil_iff.1 hspells c hc
    rw [h.dense c hc] at hblank
    cases hblank
  rw [← trim_eq_self h.dense] at hspells
  rw [Duration.parse, read_of_seconds hterms hspells (hasShortRuns_of_length_le hlength) hunits,
    hseconds, ofMicros?_mul, if_pos hn]
  rfl

/-- An empty text tells no seconds: `n` is zero. -/
theorem Tells.eq_zero {n : Nat} (h : Tells [] n) : n = 0 := by
  obtain ⟨_ | ⟨t, ts⟩, hspells, -, hseconds⟩ := h.terms
  · exact hseconds.symm
  · obtain ⟨g, rest, hnext, -⟩ := spells_cons_iff.1 hspells
    cases hnext

theorem parse_compact_ofSeconds {n : Nat} (hn : n < secondBound) :
    parse (ofSeconds n).compact = .ok (ofSeconds n) := by
  refine (tells_compact n).parse (fun hnil => ?_) (length_compact_le hn) hn
  have htells := tells_compact n
  rw [hnil] at htells
  obtain rfl := htells.eq_zero
  exact absurd hnil (by decide)

/-- The duration `d` has whole seconds, is not negative and is in range. -/
structure IsWhole (d : Duration) : Prop where
  nonneg : 0 ≤ d.micros
  whole : (microsPerSecond : Int) ∣ d.micros
  inRange : ofMicros? d.micros = some d

theorem IsWhole.exists_ofSeconds {d : Duration} (h : d.IsWhole) :
    ∃ n < secondBound, d = ofSeconds n := by
  have hnonneg := h.nonneg
  obtain ⟨k, hk⟩ := h.whole
  rw [mul_comm] at hk
  have hpos : 0 ≤ k := by
    rw [cast_microsPerSecond] at hk
    omega
  obtain ⟨n, rfl⟩ := Int.eq_ofNat_of_zero_le hpos
  have hd : d = ofSeconds n := by rw [ofSeconds, ← hk]
  refine ⟨n, ?_, hd⟩
  have hrange := h.inRange
  rw [hk, ← Nat.cast_mul, ofMicros?_mul, Option.ite_none_right_eq_some] at hrange
  exact hrange.1

/-- **The text of a duration of whole seconds.**  `parse` reads `d.compact` as `d`; the text lists
days, hours, minutes and seconds in this order, leaving out what is zero, with less than a day of
hours, an hour of minutes and a minute of seconds; and no other such duration has it. -/
theorem parse_compact {d : Duration} (h : d.IsWhole) :
    parse d.compact = .ok d ∧
    (∃ days hours minutes seconds : Nat, hours < 24 ∧ minutes < 60 ∧ seconds < 60 ∧
      d = ofSeconds (((days * 24 + hours) * 60 + minutes) * 60 + seconds : Nat) ∧
      d.compact = if d.isZero then "0s" else
        part days 'd' ++ part hours 'h' ++ part minutes 'm' ++ part seconds 's') ∧
    ∀ {e : Duration}, e.IsWhole → (e.compact = d.compact ↔ e = d) := by
  obtain ⟨n, hn, rfl⟩ := h.exists_ofSeconds
  have hparse := parse_compact_ofSeconds hn
  refine ⟨hparse, ⟨n / 86400, n % 86400 / 3600, n % 3600 / 60, n % 60, by omega, by omega,
    by omega, ?_, ?_⟩, fun {e} he => ⟨fun htext => ?_, fun heq => heq ▸ rfl⟩⟩
  · congr 2
    omega
  · rcases Nat.eq_zero_or_pos n with rfl | hpos
    · rfl
    · have hzero : (ofSeconds n).isZero = false := by
        rw [isZero, ofSeconds, cast_microsPerSecond, beq_eq_false_iff_ne]
        dsimp only
        omega
      rw [hzero, compact_ofSeconds hpos.ne']
      rfl
  · obtain ⟨k, hk, rfl⟩ := he.exists_ofSeconds
    have hother := parse_compact_ofSeconds hk
    rw [htext, hparse] at hother
    exact (Except.ok.inj hother).symm

/-- The longest duration of whole seconds, told and read by `parse`. -/
theorem parse_compact_longest :
    (⟨86399999999999000000⟩ : Duration).compact = "999999999d23h59m59s" ∧
      parse "999999999d23h59m59s" = .ok ⟨86399999999999000000⟩ := by
  have hwhole : (⟨86399999999999000000⟩ : Duration).IsWhole :=
    ⟨by decide, by decide, by decide +kernel⟩
  have htext : (⟨86399999999999000000⟩ : Duration).compact = "999999999d23h59m59s" := by
    decide +kernel
  exact ⟨htext, htext ▸ (parse_compact hwhole).1⟩

end DumpKeeper.Duration
