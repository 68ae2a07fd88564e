import DumpKeeper.Endpoint.Target
import DumpKeeper.Metrics.Exposition
import DumpKeeper.Schedule
import DumpKeeper.Text.Json

/-!
# The endpoint

The counters and the state of the scheduler can be read over HTTP, at one path each.  Both are only
ever read, so any other way to use them is refused.

* `Endpoint.route` — what a path leads to.
* `Endpoint.metricsPage`, `Endpoint.healthPage` — the two pages.
* `Endpoint.answerTo`, `Endpoint.serve` — the answer to a request.
* `Endpoint.start`, `Endpoint.stop` — the server.
-/

set_option autoImplicit false

namespace DumpKeeper.Endpoint

/-- What a path leads to.  Below one folder files are looked for, of which there are none. -/
inductive Page where
  | metrics
  | health
  | missingFile
  deriving DecidableEq, Repr

/-- The folder of files. -/
def fileFolder : List Char := "/static/".toList

/-- The path of a file below its folder: not empty, and on one line from its second character on. -/
def isFilePath : List Char → Bool
  | [] => false
  | c :: cs => c != '/' && !cs.contains '\n'

/-- What `path` leads to. -/
def route (path : List Char) : Option Page :=
  if path = "/metrics".toList then some .metrics
  else if path = "/health".toList then some .health
  else if fileFolder.isPrefixOf path && isFilePath (path.drop fileFolder.length) then
    some .missingFile
  else none

/-- A path with each two slashes as one. -/
def mergeSlashes : List Char → List Char
  | '/' :: '/' :: cs => '/' :: mergeSlashes cs
  | c :: cs => c :: mergeSlashes cs
  | [] => []

/-- The counters, or why they cannot be shown. -/
def metricsPage : Act Answer := do
  let r ← get
  match r.gatherFault with
  | none => return ⟨200, expositionType, exposition r.metrics⟩
  | some text =>
    say .error .endpoint ("Failed to gather metrics: " ++ text)
    return ⟨500, "text/plain; charset=utf-8", "Failed to gather metrics"⟩

/-- The state of the scheduler in the run `r`. -/
def healthPage (r : Run) : Answer :=
  let next := match (Schedule.jobs r).head? with
    | some j => (j.next.map fun t => Text.jsonText t.iso).getD "null"
    | none => "null"
  let state := if Schedule.isRunning r then "running" else "stopped"
  ⟨200, "application/json",
    Text.jsonObject "," ":"
      [("next_backup", next), ("scheduler", Text.jsonText state),
       ("status", Text.jsonText "healthy")] ++ "\n"⟩

/-- The answer that names what can be done with a page, which is empty. -/
def optionsAnswer : Answer := ⟨200, "text/html; charset=utf-8", ""⟩

/-- The answer that shows `page`. -/
def pageAnswer (page : Page) : Act Answer := do
  match page with
  | .metrics => metricsPage
  | .health => return healthPage (← get)
  | .missingFile => return { status := 404 }

/-- What can be done with a page. -/
def methods : List String := ["GET", "HEAD", "OPTIONS"]

/-- The answer to a request for a path.  A path that leads to a page only when its slashes are
merged is answered with a hint at that.  Only `HEAD` in capitals leaves the body out. -/
def answerTo (method : String) (path : List Char) : Act Answer := do
  let allowed := methods.contains method.toUpper
  match route path, route (mergeSlashes path) with
  | some page, _ =>
    if !allowed then return { status := 405 }
    else if method.toUpper = "OPTIONS" then return optionsAnswer
    else
      let answer ← pageAnswer page
      return if method = "HEAD" then { answer with body := "" } else answer
  | none, some _ => return { status := if allowed then 308 else 405 }
  | none, none => return { status := 404 }

/-- The answer to a request for `target`.  Only asking for a page is allowed, with or without its
body. -/
def serve (method target : String) : Act Answer := do
  match asked target with
  | .error d => fail (.broken d)
  | .ok (host, path) => if isServer host then answerTo method path else return { status := 400 }

/-! ## The server -/

/-- The address `host` with a port. -/
def addressText (host : String) (port : Int) : String := host ++ ":" ++ toString port

/-- The server started at the address in `s`; the answer is whether it runs.  That its address
cannot be had is noted and otherwise changes nothing: backups are made without it. -/
def start (s : MetricsSettings) : Act Bool := do
  match ← attempt (request (.makeServer s.address s.port)) with
  | .ok () =>
    say .info .metrics ("Metrics server bound to " ++ addressText s.address s.port)
    return true
  | .error (.service (.system text)) =>
    say .error .metrics
      ("Metrics server failed: could not bind to " ++ addressText s.address s.port ++ ": " ++ text)
    return false
  | .error f => fail f

/-- The server stopped. -/
def stop : Act Unit := do
  request .stopServer
  say .info .metrics "Metrics server stopped"

end DumpKeeper.Endpoint
