import Leaderboard.Report.Figures
import Leaderboard.Text.Split
import Leaderboard.Text.Width

set_option autoImplicit false

namespace Leaderboard.Report

inductive Alignment
  | left
  | right
deriving Repr, DecidableEq

structure Cell where
  lines : List String
  alignment : Alignment
deriving Repr, DecidableEq

namespace Cell

def ofText (alignment : Alignment) (text : String) : Cell :=
  ⟨(Text.splitAll '\n' text.toList).map String.ofList, alignment⟩

def width (c : Cell) : Nat := (c.lines.map Text.columns).foldl max 0

def height (c : Cell) : Nat := c.lines.length

end Cell

def blanks (n : Nat) : String := String.ofList (List.replicate n ' ')

def paddedLine (alignment : Alignment) (width : Nat) (line : String) : String :=
  let fill := blanks (width - Text.columns line)
  match alignment with
  | .left => " " ++ line ++ fill ++ " "
  | .right => " " ++ fill ++ line ++ " "

def columnWidths (rows : List (List Cell)) : List Nat :=
  let count := (rows.map List.length).foldl max 0
  (List.range count).map (fun i =>
    (rows.map (fun row => ((row[i]?).map Cell.width).getD 0)).foldl max 0)

def rowLines (widths : List Nat) (row : List Cell) : List String :=
  let height := (row.map Cell.height).foldl max 0
  (List.range height).map (fun i =>
    let texts := (row.zip widths).map (fun (cell, width) =>
      paddedLine cell.alignment width ((cell.lines[i]?).getD ""))
    "│" ++ "┆".intercalate texts ++ "│")

def rule (left fill junction right : String) (widths : List Nat) : String :=
  left ++ junction.intercalate (widths.map (fun w => String.join (List.replicate (w + 2) fill))) ++
    right

def boxLines (header : List Cell) (rows : List (List Cell)) : List String :=
  let widths := columnWidths (header :: rows)
  let between := rule "├" "╌" "┼" "┤" widths
  [rule "┌" "─" "┬" "┐" widths] ++ rowLines widths header ++
    (if rows.isEmpty then [] else [rule "╞" "═" "╪" "╡" widths]) ++
    [between].intercalate (rows.map (rowLines widths)) ++
    [rule "└" "─" "┴" "┘" widths]

def anyQos (rows : List Row) : Bool := rows.any Row.hasQos

def headers (showQos : Bool) : List String :=
  "Node" :: Task.all.map Task.header ++ (if showQos then ["Resp. time", "Error rate"] else [])

def orDash (text : Option String) : String := text.getD "-"

def cellTexts (showStderr showQos : Bool) (r : Row) : List String :=
  r.node :: Task.all.map (fun task => orDash ((r.score? task).map (scoreText showStderr))) ++
    (if showQos then
      [orDash (r.responseTime.map latencyText), orDash (r.errorRate.map percentageText)]
    else [])

def cellsOf : List String → List Cell
  | [] => []
  | node :: figures => Cell.ofText .left node :: figures.map (Cell.ofText .right)

-- The table takes the width that it needs, as on a terminal without bounds, and its header is not
-- set apart by a style.
def table (showStderr : Bool) (rows : List Row) : String :=
  let showQos := anyQos rows
  "\n".intercalate (boxLines ((headers showQos).map (Cell.ofText .left))
    (rows.map (fun r => cellsOf (cellTexts showStderr showQos r))))

end Leaderboard.Report
