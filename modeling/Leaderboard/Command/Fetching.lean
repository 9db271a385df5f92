import Leaderboard.Command.Context
import Leaderboard.CommandLine.Invocation
import Leaderboard.Report.Detail

set_option autoImplicit false

namespace Leaderboard.Command

open CommandLine (RowsRequest)
open Report

def progressAround (p : Printer) (source : Source) : Output :=
  p.progress ("Fetching leaderboard from " ++ source.describe) ++ p.clearProgress

def rowsFrom (c : Context) (fetch : Source → Except Failure Dataset) (request : RowsRequest) :
    Outcome :=
  .orStop (c.sorting request.sort request.ascending) fun (key, order) =>
  .orStop c.source fun source =>
    let p := c.printer
    let progress := progressAround p source
    match fetch source with
    | .ok data => .done (progress ++ p.rows (sortRows key order (project data request.filter)))
    | .error e =>
      .failed (progress ++ p.status .error ("Could not load the leaderboard: " ++ e.message))
        (.ofFailure e)

def rows (c : Context) (around : Surroundings) (request : RowsRequest) : Outcome :=
  rowsFrom c (Source.fetch around.files around.web) request

def describe (c : Context) (around : Surroundings) (node : String) : Outcome :=
  .orStop c.source fun source =>
    let p := c.printer
    let progress := progressAround p source
    match source.fetch around.files around.web with
    | .error e => .failed progress (.ofFailure e)
    | .ok data =>
      match NodeDetail.find data node with
      | .ok detail => .done (progress ++ p.detail detail)
      | .error e => .failed progress (.ofFailure e)

end Leaderboard.Command
