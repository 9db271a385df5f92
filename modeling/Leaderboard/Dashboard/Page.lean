import Leaderboard.Dashboard.Assets
import Leaderboard.Dashboard.Html
import Leaderboard.Dashboard.RowsQuery
import Leaderboard.Dashboard.Tab
import Leaderboard.Refresh.Period
import Leaderboard.Report.Figures
import Leaderboard.Theme.Basic

set_option autoImplicit false

namespace Leaderboard.Dashboard

open Html (Piece)
open Refresh (Snapshot Span)

structure Page where
  snapshot : Snapshot
  view : RowsView
  tab : Tab
  theme : Theme
  showStderr : Bool
  period : Span
  refetchOnReconnect : Bool

namespace Page

def periodSeconds (p : Page) : Nat := max p.period.seconds 1

def reloadPieces (p : Page) : List Piece :=
  match p.tab with
  | .benchmark =>
    [.markup "<meta http-equiv=\"refresh\" content=\"", .text (toString p.periodSeconds),
      .markup "\">\n"]
  | _ => []

def headPieces (p : Page) : List Piece :=
  [.markup "<!DOCTYPE html>\n<html lang=\"en\">\n<head>\n<meta charset=\"utf-8\">\n"] ++
  p.reloadPieces ++
  [.markup "<title>LLM Leaderboard</title>\n<style>",
    .markup (Assets.joinLines Assets.style),
    .markup "</style>\n</head>\n<body class=\"",
    .text p.theme.name,
    .markup "\">\n<h1>LLM Leaderboard</h1>\n"]

def tabPieces (p : Page) (t : Tab) : List Piece :=
  [.markup "<a href=\"/?tab=", .text t.name, .markup "\"",
    .markup (if t == p.tab then " class=\"active\"" else ""),
    .markup ">", .text t.label, .markup "</a>"]

def navigationPieces (p : Page) : List Piece :=
  [.markup "<nav>"] ++ Tab.all.flatMap p.tabPieces ++
  [.markup "<button type=\"button\" onclick=\"toggleTheme()\">Toggle theme</button></nav>\n"]

def filterForm (p : Page) : List Piece :=
  [.markup ("<form method=\"get\" action=\"/\">" ++
      "<input name=\"filter\" size=\"60\" " ++
      "placeholder=\"node addresses, comma separated\" value=\""),
    .text p.view.filter,
    .markup "\"><button type=\"submit\">Filter</button></form>\n"]

def bannerPieces (p : Page) : List Piece :=
  match p.snapshot.error with
  | none => []
  | some error =>
    [.markup "<div class=\"banner\">",
      .text (if p.snapshot.isLoaded then "Refresh failed, showing previous data. "
        else "Could not load the leaderboard. "),
      .text error,
      .markup " <button type=\"button\" onclick=\"retryFetch()\">Retry</button></div>\n"]

def columns (showQos : Bool) : List (SortKey × String) :=
  (.node, "Node") :: Task.all.map (fun task => (.task task, task.header)) ++
    (if showQos then [(.responseTime, "Resp. time"), (.errorRate, "Error rate")] else [])

def linkOrder (view : RowsView) (key : SortKey) : SortOrder :=
  if key = view.key ∧ view.order = .descending then .ascending else .descending

def orderWord : SortOrder → String
  | .ascending => "asc"
  | .descending => "desc"

def linkTarget (view : RowsView) (key : SortKey) : String :=
  "/?filter=" ++ Text.formEncode view.filter ++ "&sort=" ++ key.name ++ "&order=" ++
    orderWord (linkOrder view key)

def headerPieces (view : RowsView) (column : SortKey × String) : List Piece :=
  [.markup "<th><a href=\"", .text (linkTarget view column.1), .markup "\">", .text column.2,
    .markup "</a></th>"]

def cellPieces (content : String) : List Piece :=
  [.markup "<td>", .text content, .markup "</td>"]

def figure (showStderr : Bool) (r : Row) : SortKey → String
  | .node => r.node
  | .task task => ((r.score? task).map (Report.scoreText showStderr)).getD "-"
  | .responseTime => (r.responseTime.map Report.latencyText).getD "-"
  | .errorRate => (r.errorRate.map Report.percentageText).getD "-"

def rowPieces (showStderr showQos : Bool) (r : Row) : List Piece :=
  [.markup "<tr>"] ++
  (columns showQos).flatMap (fun column => cellPieces (figure showStderr r column.1)) ++
  [.markup "</tr>\n"]

def tablePieces (p : Page) : List Piece :=
  let showQos := p.view.rows.any Row.hasQos
  [.markup "<table>\n<thead><tr>"] ++
  (columns showQos).flatMap (headerPieces p.view) ++
  [.markup "</tr></thead>\n<tbody>\n"] ++
  p.view.rows.flatMap (rowPieces p.showStderr showQos) ++
  [.markup "</tbody>\n</table>\n"]

def contentPieces (p : Page) : List Piece :=
  if p.snapshot.isLoaded then p.tablePieces
  else if p.snapshot.isError then []
  else [.markup "<p>Loading leaderboard...</p>\n"]

def updatedText (p : Page) : String :=
  match p.snapshot.lastSuccess with
  | some time => time.readable
  | none => "never"

def footPieces (p : Page) : List Piece :=
  [.markup "<p class=\"meta\">",
    .text (toString p.view.rows.length ++ " of " ++ toString p.snapshot.nodeCount ++
      " nodes shown. Last updated " ++ p.updatedText ++ ". Refresh " ++ p.snapshot.phase.name ++
      "."),
    .markup "</p>\n"]

def benchmarkPieces (p : Page) : List Piece :=
  p.filterForm ++ p.bannerPieces ++ p.contentPieces ++ p.footPieces

def endpoints : List (String × String) := [
  ("GET /api/rows?filter=&sort=&order=", "Display rows, scores scaled to 0-100"),
  ("GET /api/raw", "The leaderboard exactly as fetched"),
  ("GET /api/status", "Refresh state, last update and errors"),
  ("POST /api/retry", "Refresh now"),
  ("GET /health", "Liveness and staleness")]

def endpointPieces (e : String × String) : List Piece :=
  [.markup "<tr><td>", .text e.1, .markup "</td><td>", .text e.2, .markup "</td></tr>\n"]

def apiPieces (p : Page) : List Piece :=
  [.markup ("<h2>API</h2>\n<p>The data behind this page is available as JSON for apps and portals " ++
      "that want to follow inference node performance live.</p>\n<table>\n" ++
      "<thead><tr><th>Endpoint</th><th>Returns</th></tr></thead>\n<tbody>\n")] ++
  endpoints.flatMap endpointPieces ++
  [.markup "</tbody>\n</table>\n<p class=\"meta\">Data refreshes every ",
    .text (toString p.periodSeconds), .markup " seconds.</p>\n"]

def bodyPieces (p : Page) : List Piece :=
  match p.tab with
  | .benchmark => p.benchmarkPieces
  | .about => [.markup (Assets.joinLines Assets.about)]
  | .api => p.apiPieces

def scriptPieces (p : Page) : List Piece :=
  [.markup "<script>", .markup (Assets.joinLines Assets.script),
    .markup (if p.refetchOnReconnect then Assets.joinLines Assets.reconnectScript else ""),
    .markup "</script>\n</body>\n</html>\n"]

def pieces (p : Page) : List Piece :=
  p.headPieces ++ p.navigationPieces ++ p.bodyPieces ++ p.scriptPieces

def render (p : Page) : String := Html.render p.pieces

end Page

def errorPage (message : String) : String :=
  Html.render [.markup "<p>", .text message, .markup "</p><p><a href=\"/\">Back</a></p>"]

end Leaderboard.Dashboard
