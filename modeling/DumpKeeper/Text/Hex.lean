/-!
# Hexadecimal text

* `hexDigits` — a number in lower-case hexadecimal, padded with zeros to a width.
* `hexOfBytes` — two digits for each byte.
* `hexValue?` — the value of one hexadecimal digit.
* `bytesOfHex?` — the bytes of a text of such digits (`bytesOfHex?_hexOfBytes`).
-/

set_option autoImplicit false

namespace DumpKeeper.Text

/-- The lower-case hexadecimal digits of `n`, at least `width` of them. -/
def hexDigits (width n : Nat) : List Char :=
  let ds := Nat.toDigits 16 n
  List.replicate (width - ds.length) '0' ++ ds

/-- Two hexadecimal digits for each byte. -/
def hexOfBytes (bytes : List UInt8) : String :=
  String.ofList (bytes.flatMap fun b => hexDigits 2 b.toNat)

/-- The value of a hexadecimal digit of either case. -/
def hexValue? (c : Char) : Option Nat :=
  if '0' ≤ c ∧ c ≤ '9' then some (c.toNat - 48)
  else if 'a' ≤ c ∧ c ≤ 'f' then some (c.toNat - 87)
  else if 'A' ≤ c ∧ c ≤ 'F' then some (c.toNat - 55)
  else none

/-- The byte values of a text of hexadecimal digit pairs; a lone last digit is left out. -/
def bytesOfHex? : List Char → Option (List UInt8)
  | a :: b :: rest => do
    let hi ← hexValue? a
    let lo ← hexValue? b
    let more ← bytesOfHex? rest
    return UInt8.ofNat (16 * hi + lo) :: more
  | _ => some []

/-- The two digits of a byte stand for its upper and its lower half. -/
theorem map_hexValue?_hexDigits {n : Nat} (h : n < 256) :
    (hexDigits 2 n).map hexValue? = [some (n / 16), some (n % 16)] := by
  have hall : ∀ n < 256, (hexDigits 2 n).map hexValue? = [some (n / 16), some (n % 16)] := by
    decide +kernel
  exact hall n h

/-- **Bytes can be read again** from the digits that `hexOfBytes` writes. -/
theorem bytesOfHex?_hexOfBytes (bytes : List UInt8) :
    bytesOfHex? (hexOfBytes bytes).toList = some bytes := by
  rw [hexOfBytes, String.toList_ofList]
  induction bytes with
  | nil => rfl
  | cons b rest ih =>
    obtain ⟨c, ds, hpair, hc, hds⟩ := List.map_eq_cons_iff.1 (map_hexValue?_hexDigits b.toNat_lt)
    obtain ⟨d, _, rfl, hd, hnil⟩ := List.map_eq_cons_iff.1 hds
    obtain rfl := List.map_eq_nil_iff.1 hnil
    have hb : UInt8.ofNat (16 * (b.toNat / 16) + b.toNat % 16) = b := by
      rw [Nat.div_add_mod, UInt8.ofNat_toNat]
    rw [List.flatMap_cons, hpair]
    simp only [List.cons_append, List.nil_append, bytesOfHex?, hc, hd, ih]
    exact congrArg (fun b => some (b :: rest)) hb

end DumpKeeper.Text
