import DumpKeeper.Config.Error
import DumpKeeper.Url

/-!
# Targets of requests

What is asked for is given as a locator or as a path alone.  It is taken apart as a locator twice,
so that a path with two slashes in front may hide a second authority, which does not count; a third
one would count as folders of the path.  The host that is asked, and the host of a third authority,
must be names that the net can have.

* `hasLabels` — whether a host has labels of the right length.
* `asked` — the host and the path of a target.
* `isServer` — whether a server can have the name of a host.
-/

set_option autoImplicit false

namespace DumpKeeper.Endpoint

/-- The host that is asked if a target names none. -/
def defaultHost : String := "localhost"

/-- The most characters of a label of a host. -/
def labelLimit : Nat := 63

/-- Whether the labels of `host` are not too long.  Only the last one may be empty. -/
def hasLabels (host : List Char) : Bool :=
  let labels := host.splitOn '.'
  labels.all (fun l => l.length ≤ labelLimit) && labels.dropLast.all fun l => !l.isEmpty

/-- The user and the password before the host of `authority`, without those that are empty. -/
def userText (authority : List Char) : String :=
  let before := authority.take (authority.length - (withoutUser authority).length - 1)
  let (user, password) := cutAt ':' before
  if user.isEmpty then ""
  else if password.isEmpty then String.ofList user ++ "@"
  else String.ofList user ++ ":" ++ String.ofList password ++ "@"

/-- The authority of `u` with its host in lower case and without what is empty in it. -/
def plainAuthority (u : Url) : Except Defect String := do
  let host := u.host
  if !hasLabels host.toList then throw .badLabel
  let host := if host.toList.contains ':' then "[" ++ host ++ "]" else host
  let port ← u.port.mapError fun _ => .badHost
  let port := match port with
    | some n => if n = 0 then "" else ":" ++ toString n
    | none => ""
  return userText u.authority.toList ++ host ++ port

/-- The parts of `text` as a locator. -/
def parts (text : String) : Except Defect Url :=
  (Url.split text).mapError fun _ => .badHost

/-- The path `path`, which has an authority in it, as folders. -/
def plainPath (path : String) : Except Defect String := do
  let u ← parts path
  let authority ← plainAuthority u
  let scheme := if u.scheme.isEmpty then "" else u.scheme ++ ":"
  return scheme ++ (if authority.isEmpty then "" else "//" ++ authority) ++ u.path

/-- The host that is asked by `target` and the path asked for, with its escapes resolved.  Slashes
at the beginning of a path count as one. -/
def asked (target : String) : Except Defect (String × List Char) := do
  let outer ← parts target
  let query := if outer.query.isEmpty then "" else "?" ++ outer.query
  let inner ← parts (outer.path ++ query)
  let path ← plainPath inner.path
  let authority := if outer.authority.isEmpty then defaultHost else outer.authority
  let host ← plainAuthority { outer with authority := authority }
  let path := unescape path.toList
  return (host, if path.isEmpty then [] else '/' :: path.dropWhile (· == '/'))

/-- Whether a server can have the name of `host`: what stands before the first colon. -/
def isServer (host : String) : Bool :=
  hasLabels (host.toList.takeWhile (· != ':'))

end DumpKeeper.Endpoint
