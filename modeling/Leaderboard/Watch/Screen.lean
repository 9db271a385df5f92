import Leaderboard.Refresh.Period
import Leaderboard.Report.Printer
import Leaderboard.Row.Sort
import Leaderboard.Watch.Reported

set_option autoImplicit false

namespace Leaderboard.Watch

open Refresh (Snapshot Span Timestamp)
open Report

structure View where
  printer : Printer
  key : SortKey
  order : SortOrder
  period : Span

def stateWord (s : Snapshot) : String :=
  match s.phase with
  | .fetching => "fetching"
  | .idle => if s.isError then "stale" else if s.isLoaded then "ok" else "loading"

def ageText (now : Timestamp) (s : Snapshot) : String :=
  match s.lastSuccess with
  | some time => "updated " ++ durationText (now.secondsSince time) ++ " ago"
  | none => "never updated"

def statusLine (v : View) (now : Timestamp) (s : Snapshot) : String :=
  "Leaderboard [" ++ statusText v.printer.colored (stateWord s) ++ "] " ++
    toString s.nodeCount ++ " nodes, " ++ toString s.rows.length ++ " shown, " ++
    ageText now s ++ ", refresh every " ++ durationText (max v.period.seconds 1)

def shownRows (v : View) (s : Snapshot) : List Row := sortRows v.key v.order s.rows

def failureNotice (v : View) (s : Snapshot) : Output :=
  match s.error with
  | none => .empty
  | some error =>
    let message :=
      if s.isLoaded then "Refresh failed, showing previous data: " ++ error
      else "Could not load the leaderboard: " ++ error
    v.printer.status .warning message ++ .line "Type :retry to try again"

def screen (v : View) (now : Timestamp) (s : Snapshot) : Output :=
  v.printer.clearScreen ++ .line (statusLine v now s) ++ failureNotice v s ++
    (if s.isLoaded then
      v.printer.rows (shownRows v s) ++
        .line ("Filter: '" ++ s.filter ++ "' (type node addresses, :retry, :quit)")
    else if s.isError then .empty
    else .line "Loading leaderboard...")

def document (v : View) (r : Reported) (s : Snapshot) : Output × Reported :=
  match r.next s with
  | (some .rows, after) => (v.printer.rows (shownRows v s), after)
  | (some (.failed message), after) => (v.printer.status .error message, after)
  | (none, after) => (.empty, after)

-- People see every screen, so nothing has to be kept for them.
def render (v : View) (now : Timestamp) (r : Reported) (s : Snapshot) : Output × Reported :=
  if v.printer.format.interactive then (screen v now s, r) else document v r s

end Leaderboard.Watch
