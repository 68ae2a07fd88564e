import DumpKeeper.Text.Digits
import DumpKeeper.Text.Hex
import DumpKeeper.Yaml.Token

/-!
# Names, tags and directives of a YAML document

* `anchorName` — the name behind `&` or `*`.
* `tagProperty` — a tag with its handle, if it has one.
* `directive` — a line above a document that sets the version or a tag handle.
-/

set_option autoImplicit false

namespace DumpKeeper.Yaml

/-- The name of an anchor; the place is at its sign. -/
def anchorName (c : Cursor) : Except Fault (String × Cursor) := do
  let (name, c) := c.next.span isWordChar
  if name.isEmpty then throw c.refusal
  if isGap c.peek || "?:,]\x7d%@`".toList.contains c.peek then
    return (String.ofList name, c)
  else throw .malformed

/-- The bytes written as `%` and two hexadecimal digits ahead. -/
def addressBytes : Nat → Cursor → Except Fault (List UInt8 × Cursor)
  | 0, c => .ok ([], c)
  | fuel + 1, c =>
    if c.peek == '%' then
      match Text.hexValue? (c.peekAt 1), Text.hexValue? (c.peekAt 2) with
      | some hi, some lo => do
        let (more, c) ← addressBytes fuel (c.skip 3)
        return (UInt8.ofNat (16 * hi + lo) :: more, c)
      | _, _ => .error (c.skip 2).refusal
    else .ok ([], c)

/-- The address of a tag; escaped bytes must be UTF-8. -/
def address : Nat → Cursor → Except Fault (List Char × Cursor)
  | 0, c => .ok ([], c)
  | fuel + 1, c => do
    let (cs, c) := c.span fun x => isAddressChar x && x != '%'
    if c.peek == '%' then
      let (bytes, c) ← addressBytes (c.rest.length + 1) c
      match String.fromUTF8? ⟨bytes.toArray⟩ with
      | none => throw c.refusal
      | some s =>
        let (more, c) ← address fuel c
        return (cs ++ s.toList ++ more, c)
    else return (cs, c)

/-- The address of a tag, which is not empty. -/
def tagAddress (c : Cursor) : Except Fault (String × Cursor) := do
  let (cs, c') ← address (c.rest.length + 1) c
  if c'.index = c.index then throw c.refusal
  return (String.ofList cs, c')

/-- A tag handle: `!`, or a name between two of them. -/
def tagHandle (c : Cursor) : Except Fault (String × Cursor) := do
  if c.peek != '!' then throw c.refusal
  if c.peekAt 1 == ' ' then return ("!", c.next)
  let (name, c) := c.next.span isWordChar
  if c.peek != '!' then throw c.refusal
  return (String.ofList ('!' :: name ++ ['!']), c.next)

/-- A tag; the place is at its first sign. -/
def tagProperty (c : Cursor) : Except Fault (Token × Cursor) := do
  let (token, c) ← show Except Fault (Token × Cursor) from
    if c.peekAt 1 == '<' then do
      let (suffix, c) ← tagAddress (c.skip 2)
      if c.peek != '>' then throw c.refusal
      return (.tag none suffix, c.next)
    else if isGap (c.peekAt 1) then return (.tag none "!", c.next)
    else do
      let word := c.next.rest.takeWhile fun x => !isSpaceOrLineEnd x
      let (handle, c) ← if word.contains '!' then tagHandle c else pure ("!", c.next)
      let (suffix, c) ← tagAddress c
      return (.tag (some handle) suffix, c)
  if isSpaceOrLineEnd c.peek then return (token, c) else throw .malformed

/-! ## Directives -/

/-- A decimal number of a version. -/
def versionNumber (c : Cursor) : Except Fault (Nat × Cursor) := do
  let (ds, c) := c.span Char.isDigit
  if ds.isEmpty then throw c.refusal
  if Text.digitLimit < ds.length then throw .notANumber
  return (ds.foldl (fun n d => 10 * n + (d.toNat - 48)) 0, c)

/-- A directive; the place is at its sign. -/
def directive (c : Cursor) : Except Fault (Token × Cursor) := do
  let (name, c) := c.next.span isWordChar
  if name.isEmpty || !isSpaceOrLineEnd c.peek then throw c.refusal
  let spaces (c : Cursor) : Cursor := c.skipWhile (· == ' ')
  let (d, c) ← show Except Fault (Directive × Cursor) from
    if name = "YAML".toList then do
      let (major, c) ← versionNumber (spaces c)
      if c.peek != '.' then throw c.refusal
      let (_, c) ← versionNumber c.next
      if !isSpaceOrLineEnd c.peek then throw .malformed
      return (.version major, c)
    else if name = "TAG".toList then do
      let (handle, c) ← tagHandle (spaces c)
      if c.peek != ' ' then throw c.refusal
      let (expansion, c) ← tagAddress (spaces c)
      if !isSpaceOrLineEnd c.peek then throw .malformed
      return (.tagHandle handle expansion, c)
    else return (.other, c.skipWhile fun x => !isLineEnd x)
  let c ← c.endLine
  return (.directive d, c)

end DumpKeeper.Yaml
