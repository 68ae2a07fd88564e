import DumpKeeper.Text.Lowercase.Table

/-!
# Lower case

Names of formats, levels and kinds of storage are compared without regard to case, and a refused
name is shown in lower case.  So the whole lower-casing of Unicode is needed, not only the ASCII
letters: each letter goes to its lower-case form, a dotted capital I becomes two characters, and a
capital sigma at the end of a word becomes a final sigma.

* `lowerChar` — the lower-case form of one character.
* `endsWord` — whether a capital sigma between two texts stands at the end of a word.
* `lowercase` — the lower-case form of a text.
-/

set_option autoImplicit false

namespace DumpKeeper.Text

namespace Lowercase

/-- Whether a code point lies in one of the ranges. -/
def within (ranges : List (Nat × Nat)) (n : Nat) : Bool :=
  ranges.any fun r => r.1 ≤ n && n ≤ r.2

/-- The lower-case form of one character on its own. -/
def lowerChar (c : Char) : List Char :=
  let n := c.toNat
  if n < 128 then [c.toLower]
  else if n == 0x130 then ['i', Char.ofNat 0x307]
  else
    match shifts.find? fun (first, last, step, _) =>
      first ≤ n && n ≤ last && (n - first) % step == 0 with
    | some (_, _, _, distance) => [Char.ofNat (Int.toNat (n + distance))]
    | none => [c]

/-- Whether the first character that is not passed over is a cased letter. -/
def meetsCased (cs : List Char) : Bool :=
  match cs.dropWhile fun c => within ignorableRanges c.toNat with
  | c :: _ => within casedRanges c.toNat
  | [] => false

/-- A capital sigma ends a word when a cased letter comes before it and none after it.  The text
before is given backwards. -/
def endsWord (before after : List Char) : Bool :=
  meetsCased before && !meetsCased after

/-- Lower-casing with the text already passed, backwards. -/
def run (before : List Char) : List Char → List Char
  | [] => []
  | c :: after =>
    let form :=
      if c == 'Σ' then [if endsWord before after then 'ς' else 'σ'] else lowerChar c
    form ++ run (c :: before) after

end Lowercase

/-- The lower-case form of a text. -/
def lowercase (cs : List Char) : List Char :=
  Lowercase.run [] cs

end DumpKeeper.Text
