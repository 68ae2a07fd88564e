import DumpKeeper.Text.Numeral
import DumpKeeper.Url

/-!
# The address of a Redis node

A node is given by a locator.  Before a client is made for it, the scheme, the parameters and the
port are looked at, in that order.  A parameter that stands more than once has its first value, and
most parameters may have any value.

* `ParameterKind` — the kinds of parameters whose values are checked.
* `checkParameters` — the values of all parameters.
* `checkAddress` — a whole address; what is wrong with it is told in words.
-/

set_option autoImplicit false

namespace DumpKeeper.Replication

/-- The schemes of an address of a Redis node. -/
def schemes : List String := ["redis://", "rediss://", "unix://"]

/-- What is said about any other address. -/
def schemeText : String :=
  "Redis URL must specify one of the following schemes (redis://, rediss://, unix://)"

/-! ## Parameters -/

/-- What the value of a parameter must be. -/
inductive ParameterKind where
  | whole
  | number
  | tlsVersion
  | certificateFlags
  deriving DecidableEq, Repr

/-- The parameters whose values are checked. -/
def parameterKinds : List (String × ParameterKind) :=
  [("db", .whole), ("max_connections", .whole), ("health_check_interval", .whole),
   ("socket_timeout", .number), ("socket_connect_timeout", .number), ("timeout", .number),
   ("ssl_min_version", .tlsVersion), ("ssl_include_verify_flags", .certificateFlags),
   ("ssl_exclude_verify_flags", .certificateFlags)]

/-- The versions of TLS by name and by number. -/
def tlsVersions : List (String × Int) :=
  [("MINIMUM_SUPPORTED", -2), ("MAXIMUM_SUPPORTED", -1), ("SSLv3", 768), ("TLSv1", 769),
   ("TLSv1_1", 770), ("TLSv1_2", 771), ("TLSv1_3", 772)]

/-- The ways to be strict about a certificate. -/
def certificateFlags : List String :=
  ["VERIFY_DEFAULT", "VERIFY_CRL_CHECK_LEAF", "VERIFY_CRL_CHECK_CHAIN", "VERIFY_X509_STRICT",
   "VERIFY_ALLOW_PROXY_CERTS", "VERIFY_X509_TRUSTED_FIRST", "VERIFY_X509_PARTIAL_CHAIN"]

/-- Whether the value `cs` is of this `kind`. -/
def ParameterKind.holds (kind : ParameterKind) (cs : List Char) : Bool :=
  match kind with
  | whole => (Text.readInt 10 cs).isSome
  | number => (Text.readFloat cs).isSome
  | tlsVersion =>
    tlsVersions.any fun (name, code) =>
      cs == name.toList || Text.readInt 10 cs == some code
  | certificateFlags =>
    let flags := (cs.filter fun c => c != '[' && c != ']').splitOn ','
    flags.all fun flag => Replication.certificateFlags.contains (String.ofList (Text.trim flag))

/-- The value of the parameter `name` among `fields`, its escapes resolved once more. -/
def parameter? (fields : List (String × String)) (name : String) : Option (List Char) :=
  (fields.lookup name).map fun value => unescape value.toList

/-- The values of the parameters in `fields`, in the order in which their names first come. -/
def checkParameters (fields : List (String × String)) : Except String Unit :=
  (fields.map (·.1)).eraseDups.forM fun name =>
    match parameterKinds.lookup name, parameter? fields name with
    | some kind, some value =>
      if kind.holds value then .ok ()
      else .error ("Invalid value for '" ++ name ++ "' in connection URL.")
    | _, _ => .ok ()

/-! ## Addresses -/

/-- Whether `fields` limit the connections to fewer than none. -/
def limitIsNegative (fields : List (String × String)) : Bool :=
  match (parameter? fields "max_connections").bind (Text.readInt 10) with
  | some n => n < 0
  | none => false

/-- The parameters for answers kept by the client, which no address can turn on. -/
def cacheParameters : List String := ["cache_config", "cache"]

/-- Whether `fields` make the client keep answers. -/
def wantsCache (fields : List (String × String)) : Bool :=
  fields.any fun f => cacheParameters.contains f.1

/-- The address `text`, if a client can be made for it.  A socket of the system has no port. -/
def checkAddress (text : String) : Except String Unit := do
  if !schemes.any fun s => s.toList.isPrefixOf text.toList then throw schemeText
  let url ← (Url.split text).mapError UrlFault.message
  let fields := url.parameters
  checkParameters fields
  if url.scheme ≠ "unix" then
    let _ ← url.port.mapError UrlFault.message
  if limitIsNegative fields then throw "\"max_connections\" must be a positive integer"
  if wantsCache fields then throw "Client caching is only supported with RESP version 3"

end DumpKeeper.Replication
