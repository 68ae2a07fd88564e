import DumpKeeper.Decimal.Binary64

/-!
# The shortest decimal text of a floating-point number

A number is shown with the fewest digits that read back as the same number.  The decimals that read
back fill an interval around the value; its ends belong to it when the mantissa is even.  So the
text is found by looking at decimal grids from coarse to fine: the first grid with a point in the
interval gives the digits, and of two such points the nearer one is taken.

* `Interval` — the value and the distances to the ends of its interval, over one denominator.
* `onGrid?` — the point of the grid `10 ^ e` that reads back, if there is one.
* `digits` — the digits and the power of ten of the shortest decimal.
* `text` — the number as it is shown.
-/

set_option autoImplicit false

namespace DumpKeeper.Binary64

/-- The decimals that read back as a number: from `value - below` to `value + above`, all over the
denominator `den`, the ends included when `closed` holds. -/
structure Interval where
  value : Nat
  below : Nat
  above : Nat
  den : Nat
  closed : Bool
  deriving DecidableEq, Repr

/-- The interval of the positive finite number with the parts `p`.  Below a power of two the
neighbour is twice as near. -/
def Parts.interval (p : Parts) : Interval :=
  let scale := if 2 ≤ p.exponent then Nat.pow 2 (p.exponent - 2).toNat else 1
  let edge := p.mantissa = Nat.pow 2 52 ∧ -1074 < p.exponent
  { value := 4 * p.mantissa * scale
    below := if edge then scale else 2 * scale
    above := 2 * scale
    den := if 2 ≤ p.exponent then 1 else Nat.pow 2 (2 - p.exponent).toNat
    closed := p.mantissa % 2 = 0 }

/-- The interval with everything multiplied by `k` and divided by `d`. -/
def Interval.scale (i : Interval) (k d : Nat) : Interval :=
  { i with value := i.value * k, below := i.below * k, above := i.above * k, den := i.den * d }

/-- The whole number in the interval `i` that is nearest to its value, if there is one. -/
def Interval.nearest? (i : Interval) : Option Nat :=
  let low := i.value / i.den
  let down := i.value - low * i.den
  let up := (low + 1) * i.den - i.value
  let reaches (distance limit : Nat) : Bool :=
    if i.closed then distance ≤ limit else distance < limit
  match reaches down i.below, reaches up i.above with
  | true, false => some low
  | false, true => some (low + 1)
  | false, false => none
  | true, true =>
    if down < up then some low
    else if up < down then some (low + 1)
    else some (low + low % 2)

/-- The point of the grid `10 ^ e` that reads back, counted in steps of the grid. -/
def onGrid? (p : Parts) (e : Int) : Option Nat :=
  (if 0 ≤ e then p.interval.scale 1 (Nat.pow 10 e.toNat)
    else p.interval.scale (Nat.pow 10 (-e).toNat) 1).nearest?

/-- The digits of the shortest decimal that reads back, and their power of ten.  The search begins
at a grid coarser than the number itself. -/
def Parts.digits (p : Parts) : Nat × Int :=
  let start : Int := ((Nat.log2 p.mantissa : Int) + p.exponent) * 1233 / 4096 + 2
  let found := (List.range 24).findSome? fun i =>
    let e := start - Int.ofNat i
    (onGrid? p e).map fun d => (d, e)
  found.getD (0, 0)

/-- Digits with the point after the first `point` of them; zeros fill up on either side. -/
def placePoint (ds : List Char) (point : Int) : List Char :=
  if point ≤ 0 then '0' :: '.' :: (List.replicate (-point).toNat '0' ++ ds)
  else if ds.length ≤ point.toNat then
    ds ++ List.replicate (point.toNat - ds.length) '0' ++ ['.', '0']
  else ds.take point.toNat ++ '.' :: ds.drop point.toNat

/-- The digits `ds` as one digit, a point if more follow, and an exponent of at least two digits. -/
def withExponent (ds : List Char) (point : Int) : List Char :=
  let e := point - 1
  let es := Nat.toDigits 10 e.natAbs
  ds.take 1 ++ (if ds.length ≤ 1 then [] else '.' :: ds.drop 1) ++
    'e' :: (if e < 0 then '-' else '+') :: (List.replicate (2 - es.length) '0' ++ es)

/-- A number as it is shown: positional from `0.0001` up to sixteen digits before the point, with an
exponent outside, and never without a mark that it is no whole number. -/
def text (x : Float) : String :=
  if x.isNaN then "nan"
  else
    let p := parts x
    let body :=
      if x.isInf then ['i', 'n', 'f']
      else if p.mantissa = 0 then ['0', '.', '0']
      else
        let (d, e) := p.digits
        let ds := Nat.toDigits 10 d
        let point := (ds.length : Int) + e
        if -4 < point ∧ point ≤ 16 then placePoint ds point else withExponent ds point
    String.ofList (if p.negative then '-' :: body else body)

end DumpKeeper.Binary64
