import Leaderboard.Dashboard.Body
import Leaderboard.Dashboard.Cookie
import Leaderboard.Dashboard.MediaType
import Leaderboard.Dashboard.Message
import Leaderboard.Dashboard.Page
import Leaderboard.Refresh.Actor

set_option autoImplicit false

namespace Leaderboard.Dashboard

open Refresh (Command Snapshot Span)

structure Context where
  snapshot : Snapshot
  theme : Theme
  display : DisplaySettings
  period : Span
  refetchOnReconnect : Bool

inductive Endpoint
  | page
  | rows
  | raw
  | status
  | retry
  | filter
  | theme
  | health
deriving Repr, DecidableEq

namespace Endpoint

def ofPath? (path : String) : Option Endpoint :=
  match path with
  | "/" => some page
  | "/api/rows" => some rows
  | "/api/raw" => some raw
  | "/api/status" => some status
  | "/api/retry" => some retry
  | "/api/filter" => some filter
  | "/api/theme" => some theme
  | "/health" => some health
  | _ => none

end Endpoint

namespace Context

def themeFor (c : Context) (r : Request) : Theme :=
  (Cookie.theme? ((r.header "cookie").filter Request.isVisible)).getD c.theme

def failure (f : Failure) : Response :=
  .json f.kind.httpStatus
    (.object [("error", .text f.message), ("category", .text f.category)])

def unreadableQuery : Response := .plain 400 "The query string cannot be read"

def page (c : Context) (r : Request) : Response :=
  match RowsQuery.ofText? r.target.query with
  | none => unreadableQuery
  | some query =>
    match query.resolve c.snapshot c.display with
    | .error f => .html 400 (errorPage f.message)
    | .ok view =>
      .html 200 (Page.render
        { snapshot := c.snapshot
          view := view
          tab := Tab.ofQuery query.tab
          theme := c.themeFor r
          showStderr := c.display.showStderr
          period := c.period
          refetchOnReconnect := c.refetchOnReconnect })

def timeJson (time : Option Refresh.Timestamp) : Json := .optionalText (time.map (·.text))

def rows (c : Context) (r : Request) : Response :=
  match RowsQuery.ofText? r.target.query with
  | none => unreadableQuery
  | some query =>
    match query.resolve c.snapshot c.display with
    | .error f => failure f
    | .ok view =>
      .json 200 (.object [
        ("rows", .list (view.rows.map Row.toJson)),
        ("filter", .text view.filter),
        ("sort", .text view.key.name),
        ("descending", .boolean (view.order == .descending)),
        ("error", .optionalText c.snapshot.error),
        ("last_success", timeJson c.snapshot.lastSuccess),
        ("generation", .nat c.snapshot.generation)])

def raw (c : Context) : Response :=
  match c.snapshot.dataset with
  | some dataset => .json 200 dataset.toJson
  | none => failure ⟨.unavailable, "leaderboard has not been loaded yet"⟩

def status (c : Context) : Response :=
  let s := c.snapshot
  .json 200 (.object [
    ("phase", .text s.phase.name),
    ("last_outcome", .optionalText (s.lastOutcome.map (·.name))),
    ("error", .optionalText s.error),
    ("last_success", timeJson s.lastSuccess),
    ("last_attempt", timeJson s.lastAttempt),
    ("generation", .nat s.generation),
    ("attempts", .nat s.attempts),
    ("filter", .text s.filter),
    ("nodes", .nat s.nodeCount),
    ("rows", .nat s.rows.length),
    ("refresh_interval_ms", .nat (c.period.nanoseconds / 1000000))])

def health (c : Context) : Response :=
  .json 200 (.object [("status", .text "ok"), ("loaded", .boolean c.snapshot.isLoaded),
    ("stale", .boolean c.snapshot.isError)])

def themeJson (t : Theme) : Json := .object [("theme", .text t.name)]

def read (c : Context) (r : Request) : Endpoint → Response
  | .page => c.page r
  | .rows => c.rows r
  | .raw => c.raw
  | .status => c.status
  | .theme => .json 200 (themeJson (c.themeFor r))
  | .health => c.health
  | .retry | .filter => .bare 405

def hasJsonBody (r : Request) : Bool :=
  match r.header "content-type" with
  | value :: _ => Request.isVisible value && MediaType.isJson value
  | [] => false

-- Of a refusal only the status is the server's; its text is put in other words. Bodies are texts
-- here, so bytes that are none are left out.
def bodyOf {α : Type} (read : String → Except BodyError α) (r : Request) : Except Response α :=
  if !hasJsonBody r then .error (.plain 415 "The body must be JSON")
  else if Body.limit < r.body.utf8ByteSize then .error (.plain 413 "The body is too long")
  else
    match read r.body with
    | .ok value => .ok value
    | .error .malformed => .error (.plain 400 "The body is not JSON")
    | .error .misshapen => .error (.plain 422 "The body has another shape")

def chooseTheme (c : Context) (r : Request) : Response :=
  match bodyOf Body.theme r with
  | .error refusal => refusal
  | .ok asked =>
    let theme := asked.getD (c.themeFor r).toggle
    { Response.json 200 (themeJson theme) with setCookie := some (Cookie.setTheme theme) }

def write (c : Context) (r : Request) : Endpoint → Response × Option Command
  | .retry => (.json 202 (.object [("status", .text "accepted")]), some .retry)
  | .filter =>
    match bodyOf Body.filter r with
    | .error refusal => (refusal, none)
    | .ok filter => (.json 202 (.object [("filter", .text filter)]), some (.setFilter filter))
  | .theme => (c.chooseTheme r, none)
  | _ => (.bare 405, none)

def respond (c : Context) (r : Request) : Response × Option Command :=
  match Endpoint.ofPath? r.target.path with
  | none => (.bare 404, none)
  | some endpoint =>
    if r.method == "GET" then (c.read r endpoint, none)
    else if r.method == "HEAD" then ((c.read r endpoint).withoutBody, none)
    else if r.method == "POST" then c.write r endpoint
    else (.bare 405, none)

end Context

end Leaderboard.Dashboard
