/-!
# Answers of the endpoint

* `Answer` — what a request is answered with: a status and, where it matters, a text of some type.
-/

set_option autoImplicit false

namespace DumpKeeper

/-- An answer to a request. -/
structure Answer where
  status : Nat
  contentType : String := ""
  body : String := ""
  deriving DecidableEq, Repr, Inhabited

end DumpKeeper
