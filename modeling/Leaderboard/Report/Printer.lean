import Leaderboard.Report.Console
import Leaderboard.Report.Table
import Leaderboard.Json.Writer
import Leaderboard.Yaml.Writer

set_option autoImplicit false

namespace Leaderboard.Report

inductive Format
  | table
  | json
  | yaml
  | text
deriving Repr, DecidableEq

namespace Format

def interactive : Format → Bool
  | table | text => true
  | json | yaml => false

end Format

structure Printer where
  format : Format
  showStderr : Bool
  colored : Bool
deriving Repr, DecidableEq

def rowPairs (r : Row) : List (String × String) :=
  ("Node", r.node) ::
  Task.all.filterMap (fun task =>
    (r.score? task).map (fun score => (task.header, scoreText true score))) ++
  (r.responseTime.map (fun ms => ("Resp. time", latencyText ms))).toList ++
  (r.errorRate.map (fun rate => ("Error rate", percentageText rate))).toList

inductive Status
  | success
  | error
  | warning
  | info
deriving Repr, DecidableEq

namespace Status

def word : Status → String
  | success => "success"
  | error => "error"
  | warning => "warning"
  | info => "info"

def icon : Status → String
  | success => "✓"
  | error => "✗"
  | warning => "⚠"
  | info => "ℹ"

def style : Status → Style
  | success => .green
  | error => .red
  | warning => .yellow
  | info => .blue

def onErrorOutput : Status → Bool
  | error | warning => true
  | success | info => false

end Status

namespace Printer

def pairLine (p : Printer) (pair : String × String) : String :=
  let key := if p.format == .table then paint p.colored [.bold, .cyan] pair.1 else pair.1
  key ++ ": " ++ pair.2

def item (p : Printer) (document : Json) (pairs : List (String × String)) : Output :=
  match p.format with
  | .json => .line document.pretty
  | .yaml => .line (Yaml.document document)
  | .table | .text => .lines (pairs.map p.pairLine)

def textBlocks (p : Printer) (rows : List Row) : List String :=
  [""].intercalate (rows.map (fun r => (rowPairs r).map p.pairLine))

def rows (p : Printer) (rows : List Row) : Output :=
  let document := Json.list (rows.map Row.toJson)
  match p.format with
  | .json => .line document.pretty
  | .yaml => .line (Yaml.document document)
  | .text => .lines (p.textBlocks rows)
  | .table =>
    if rows.isEmpty then .line (paint p.colored [.dimmed] "No nodes match the current filter")
    else .line (table p.showStderr rows)

def status (p : Printer) (s : Status) (message : String) : Output :=
  match p.format with
  | .json => .line (Json.object [("message", .text message), ("status", .text s.word)]).pretty
  | .yaml => .lines ["status: " ++ s.word, "message: " ++ message]
  | .table | .text =>
    let text := paint p.colored [.bold, s.style] s.icon ++ " " ++ paint p.colored [s.style] message
    if s.onErrorOutput then .errorLine text else .line text

def progress (p : Printer) (message : String) : Output :=
  if p.format.interactive then
    .errorVerbatim (paint p.colored [.yellow] "⏳" ++ " " ++ message ++ "...\r")
  else .empty

def clearProgress (p : Printer) : Output :=
  if p.format.interactive then .errorVerbatim ("\r" ++ blanks 80 ++ "\r") else .empty

def clearSequence : String :=
  String.ofList [Char.ofNat 27, '[', '2', 'J', Char.ofNat 27, '[', '1', ';', '1', 'H']

def clearScreen (p : Printer) : Output :=
  if p.format.interactive then .verbatim clearSequence else .empty

end Printer

end Leaderboard.Report
