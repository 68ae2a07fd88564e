import DumpKeeper.Config.Conversion
import DumpKeeper.Url

/-!
# Targets from locators

A storage target can be written as one line: the scheme gives the kind of store, the host the
bucket, the path the folder, and the query whatever else that kind of store has.

* `StorageTarget.ofLocator` — the target that a value spells.
* `knownParameters` — the names that a query may have.
-/

set_option autoImplicit false

namespace DumpKeeper

open Conversion

/-- The kind of store that `scheme` stands for. -/
def BackendKind.ofScheme? (scheme : String) : Option BackendKind :=
  if scheme = "s3" then some .s3
  else if scheme = "gs" ∨ scheme = "gcs" then some .gcs
  else none

/-- The names that the query of a locator may have. -/
def knownParameters : BackendKind → List String
  | .s3 => ["region", "endpoint"]
  | .gcs => ["project_id"]

/-- The `names` in order, each once. -/
def sortedNames (names : List String) : List String :=
  (names.eraseDups).mergeSort fun a b => a ≤ b

/-- The last value that the parameters in `fields` give to `name`. -/
def lastParameter (fields : List (String × String)) (name : String) : Value :=
  match fields.reverse.lookup name with
  | some v => .text v
  | none => .null

/-- The text `s` without slashes at its two ends. -/
def trimSlashes (s : String) : String :=
  dropEndSlashes (String.ofList (s.toList.dropWhile (· == '/')))

/-- The target that the locator `v` spells. -/
def StorageTarget.ofLocator (v : Value) : Except ConfigFailure StorageTarget := do
  match Url.split (← shown v Value.asText) with
  | .error _ => .error (.broken .badHost)
  | .ok url =>
    match BackendKind.ofScheme? url.scheme with
    | none => refuse (.unknownScheme v.quoted)
    | some kind =>
      if url.authority.isEmpty then refuse (.noBucket v.quoted)
      else
        let fields := url.parameters
        let unknown := fields.map (·.1) |>.filter fun n => !(knownParameters kind).contains n
        if unknown.isEmpty then
          .ok { kind := kind
                bucket := url.authority
                folder := trimSlashes url.path
                region := if kind = .s3 then lastParameter fields "region" else .null
                endpoint := if kind = .s3 then lastParameter fields "endpoint" else .null
                projectId := if kind = .gcs then lastParameter fields "project_id" else .null }
        else refuse (.unknownParameters kind (sortedNames unknown))

end DumpKeeper
