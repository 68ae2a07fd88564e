import DumpKeeper.Text.Digits
import DumpKeeper.Text.Lowercase
import DumpKeeper.Text.Quoted
import DumpKeeper.Text.Utf8

/-!
# Locators

A place for backups may be given by a locator such as `s3://bucket/prefix?region=eu-central-1`.  It
is taken apart by its marks alone; escapes are resolved in the names and values of the query only.

* `Url`, `Url.split` — the parts of a locator, unless its host has brackets or characters that no
  host can have.
* `Url.host`, `Url.port` — the host and the port alone.
* `UrlFault`, `UrlFault.message` — what can be wrong, and its wording.
* `isIpv6` — an address as it may stand in brackets.
* `Url.parameters` — the names and values of the query, in order; those without a value are left
  out.
-/

set_option autoImplicit false

namespace DumpKeeper

/-- The parts of a locator.  The authority is the host with whatever stands before and behind it. -/
structure Url where
  scheme : String
  authority : String
  path : String
  query : String
  deriving DecidableEq, Repr

/-! ## Hosts -/

/-- Whether `cs` is a number of an address in dots. -/
def isOctet (cs : List Char) : Bool :=
  !cs.isEmpty && cs.length ≤ 3 && cs.all Char.isDigit && (cs == ['0'] || cs.headD '0' != '0') &&
    cs.foldl (fun n c => 10 * n + (c.toNat - 48)) 0 ≤ 255

/-- Whether `cs` is an address of four numbers. -/
def isIpv4 (cs : List Char) : Bool :=
  let parts := cs.splitOn '.'
  parts.length == 4 && parts.all isOctet

/-- Whether `cs` is a group of an address in colons. -/
def isHextet (cs : List Char) : Bool :=
  !cs.isEmpty && cs.length ≤ 4 && cs.all fun c => (Text.hexValue? c).isSome

/-- The groups of an address, its last part in dots counted as two; `none` if that part is no
address itself. -/
def hextets? (cs : List Char) : Option (List (List Char)) :=
  let parts := cs.splitOn ':'
  let last := parts.getLastD []
  if parts.length < 3 then none
  else if last.contains '.' then
    if isIpv4 last then some (parts.dropLast ++ [['0'], ['0']]) else none
  else some parts

/-- Whether `parts` are eight groups, or fewer with one gap between two colons. -/
def isGroups (parts : List (List Char)) : Bool :=
  let inner := (parts.drop 1).dropLast
  match inner.filter (·.isEmpty) with
  | [] => parts.length == 8 && parts.all isHextet
  | [_] =>
    let before := parts.take (inner.takeWhile (!·.isEmpty)).length.succ
    let behind := parts.drop (before.length + 1)
    let before := if before == [[]] then [] else before
    let behind := if behind == [[]] then [] else behind
    before.length + behind.length < 8 && before.all isHextet && behind.all isHextet
  | _ => false

/-- Whether `cs` is an address of sixteen bytes, with or without a zone behind a percent sign. -/
def isIpv6 (cs : List Char) : Bool :=
  let address := cs.takeWhile (· != '%')
  let zone := cs.drop (address.length + 1)
  let zoned := address.length < cs.length
  !cs.contains '/' && (!zoned || (!zone.isEmpty && !zone.contains '%')) &&
    match hextets? address with
    | some parts => parts.length ≤ 9 && isGroups parts
    | none => false

/-- Whether `cs` is an address of a version to come: a version number, a dot, and anything on one
line. -/
def isFutureAddress (cs : List Char) : Bool :=
  let version := cs.takeWhile fun c => (Text.hexValue? c).isSome
  match cs.drop version.length with
  | '.' :: rest => !version.isEmpty && !rest.isEmpty && !rest.contains '\n'
  | _ => false

/-- Characters that turn into marks of a locator when a host is brought to its normal form. -/
def disguisedMarks : List Nat :=
  [0x2047, 0x2048, 0x2049, 0x2100, 0x2101, 0x2105, 0x2106, 0x2a74, 0xfe13, 0xfe16, 0xfe55, 0xfe56,
   0xfe5f, 0xfe6b, 0xff03, 0xff0f, 0xff1a, 0xff1f, 0xff20]

/-! ## Faults -/

/-- Why a text is no locator, or has no port. -/
inductive UrlFault where
  /-- Brackets that do not belong together, or with something beside them. -/
  | brackets
  /-- An address in brackets that begins with a `v` is none of a version to come. -/
  | futureAddress
  /-- An address of four numbers in brackets. -/
  | shortAddress
  /-- Something else in brackets that is no address. -/
  | noAddress (shown : String)
  /-- An authority with a disguised mark. -/
  | disguisedMark (authority : String)
  | portNotANumber (shown : String)
  | portOutOfRange
  /-- A port with too many digits. -/
  | portTooLong (digits : Nat)
  deriving DecidableEq, Repr

/-- What is said about a fault. -/
def UrlFault.message : UrlFault → String
  | .brackets => "Invalid IPv6 URL"
  | .futureAddress => "IPvFuture address is invalid"
  | .shortAddress => "An IPv4 address cannot be in brackets"
  | .noAddress shown => shown ++ " does not appear to be an IPv4 or IPv6 address"
  | .disguisedMark authority =>
    "netloc '" ++ authority ++ "' contains invalid characters under NFKC normalization"
  | .portNotANumber shown => "Port could not be cast to integer value as " ++ shown
  | .portOutOfRange => "Port out of range 0-65535"
  | .portTooLong digits =>
    "Exceeds the limit (" ++ toString Text.digitLimit ++
      " digits) for integer string conversion: value has " ++ toString digits ++
      " digits; use sys.set_int_max_str_digits() to increase the limit"

/-! ## Authorities -/

/-- The text `cs` before `mark`, and the text behind it if the mark is there. -/
def cutAt (mark : Char) (cs : List Char) : List Char × List Char :=
  (cs.takeWhile (· != mark), (cs.dropWhile (· != mark)).drop 1)

/-- An `authority` without the user in front of it. -/
def withoutUser (authority : List Char) : List Char :=
  (authority.reverse.takeWhile (· != '@')).reverse

/-- The host of an `authority` without brackets, and what follows it up to the port.  Where there is
a bracket, the host is in it. -/
def hostAndPort (authority : List Char) : List Char × List Char :=
  let cs := withoutUser authority
  if cs.contains '[' then
    let (host, rest) := cutAt ']' (cutAt '[' cs).2
    (host, (cutAt ':' rest).2)
  else cutAt ':' cs

/-- The address `host`, if it may stand in brackets. -/
def checkAddress (host : List Char) : Except UrlFault Unit :=
  match host with
  | 'v' :: rest => if isFutureAddress rest then .ok () else .error .futureAddress
  | _ =>
    if isIpv6 host then .ok ()
    else if isIpv4 host then .error .shortAddress
    else .error (.noAddress (Text.quoted (String.ofList host)))

/-- Brackets in an `authority` stand around the whole host, which must be an address.  That holds
for the host without brackets too, if there are any around the user. -/
def checkBrackets (authority : List Char) : Except UrlFault Unit := do
  if authority.contains '[' != authority.contains ']' then throw .brackets
  if authority.contains '[' then
    let cs := withoutUser authority
    if cs.contains '[' then
      let (before, rest) := cutAt '[' cs
      let behind := (cutAt ']' rest).2
      if !before.isEmpty then throw .brackets
      if !behind.isEmpty && behind.headD ':' != ':' then throw .brackets
    checkAddress (hostAndPort authority).1

/-- The `authority`, if a locator may have it. -/
def checkAuthority (authority : List Char) : Except UrlFault Unit := do
  checkBrackets authority
  if authority.any fun c => disguisedMarks.contains c.toNat then
    throw (.disguisedMark (String.ofList authority))

/-! ## Parts -/

/-- Whether `c` is a character of a scheme. -/
def isSchemeChar (c : Char) : Bool :=
  c.isAlphanum || c == '+' || c == '-' || c == '.'

/-- The scheme of `cs` in lower case, and what follows its colon; no scheme unless it begins with a
letter. -/
def cutScheme (cs : List Char) : List Char × List Char :=
  let name := cs.takeWhile (· != ':')
  if name.length < cs.length && (name.headD ' ').isAlpha && name.all isSchemeChar then
    (name.map Char.toLower, cs.drop (name.length + 1))
  else ([], cs)

/-- The parts of the locator `s`.  Controls and spaces in front are left out, and so are tabulations
and line ends anywhere. -/
def Url.split (s : String) : Except UrlFault Url := do
  let cs := (s.toList.dropWhile fun c => c.toNat ≤ 32).filter fun c =>
    !(c == '\t' || c == '\r' || c == '\n')
  let (scheme, rest) := cutScheme cs
  let (authority, rest) := match rest with
    | '/' :: '/' :: rest =>
      let authority := rest.takeWhile fun c => !(c == '/' || c == '?' || c == '#')
      (authority, rest.drop authority.length)
    | _ => ([], rest)
  checkAuthority authority
  let (path, query) := cutAt '?' (cutAt '#' rest).1
  return ⟨String.ofList scheme, String.ofList authority, String.ofList path, String.ofList query⟩

/-- The host of the locator `u`, in lower case up to its zone. -/
def Url.host (u : Url) : String :=
  let cs := (hostAndPort u.authority.toList).1
  let address := cs.takeWhile (· != '%')
  String.ofList (Text.lowercase address ++ cs.drop address.length)

/-- The port of the locator `u`, if it has one. -/
def Url.port (u : Url) : Except UrlFault (Option Nat) := do
  let cs := (hostAndPort u.authority.toList).2
  if cs.isEmpty then return none
  if !cs.all Char.isDigit then throw (.portNotANumber (Text.quoted (String.ofList cs)))
  if Text.digitLimit < cs.length then throw (.portTooLong cs.length)
  let n := Text.natOfDigits (cs.filterMap Text.digitValue?)
  if 65535 < n then throw .portOutOfRange
  return some n

/-! ## Queries -/

/-- The bytes of ASCII text with escapes of a percent sign and two digits. -/
def unescapedBytes : List Char → List UInt8
  | [] => []
  | [c] => [UInt8.ofNat c.toNat]
  | [c, d] => [UInt8.ofNat c.toNat, UInt8.ofNat d.toNat]
  | c :: d :: e :: rest =>
    if c = '%' then
      match Text.hexValue? d, Text.hexValue? e with
      | some hi, some lo => UInt8.ofNat (16 * hi + lo) :: unescapedBytes rest
      | _, _ => UInt8.ofNat c.toNat :: unescapedBytes (d :: e :: rest)
    else UInt8.ofNat c.toNat :: unescapedBytes (d :: e :: rest)

/-- Text with its escapes resolved.  Each stretch of ASCII characters is read by itself; `run` is
the stretch that is being read, backwards. -/
def unescapeFrom (run : List Char) : List Char → List Char
  | [] => Text.decodeLossy (unescapedBytes run.reverse)
  | c :: rest =>
    if c.toNat < 128 then unescapeFrom (c :: run) rest
    else Text.decodeLossy (unescapedBytes run.reverse) ++ c :: unescapeFrom [] rest

/-- The text `cs` with its escapes resolved. -/
def unescape (cs : List Char) : List Char := unescapeFrom [] cs

/-- The name or the value `cs` of a query: a plus sign is a space, then escapes are resolved. -/
def unescapeField (cs : List Char) : String :=
  String.ofList (unescape (cs.map fun c => if c = '+' then ' ' else c))

/-- The names and values of the query of `u`, those with an empty value left out. -/
def Url.parameters (u : Url) : List (String × String) :=
  (u.query.toList.splitOn '&').filterMap fun field =>
    let (name, value) := cutAt '=' field
    if value.isEmpty then none else some (unescapeField name, unescapeField value)

end DumpKeeper
