import Leaderboard.Report.Printer
import Leaderboard.Failure

set_option autoImplicit false

namespace Leaderboard.Report

structure NodeDetail where
  row : Row
  metadata : Option NodeMetadata
deriving DecidableEq

namespace NodeDetail

def missing (node : String) : Failure :=
  ⟨.notFound, "node " ++ node ++ " is not on the leaderboard"⟩

def find (data : Dataset) (text : String) : Except Failure NodeDetail :=
  let node := Text.trim text
  match data.find? node with
  | none => .error (missing node)
  | some record =>
    match projectWith data (.ofNodes [node]) with
    | row :: _ => .ok ⟨row, record.metadata⟩
    | [] => .error (missing text)

def toJson (d : NodeDetail) : Json :=
  .object (d.row.members ++ (d.metadata.map (fun m => ("metadata", m.toJson))).toList)

def metadataPairs (m : NodeMetadata) : List (String × String) :=
  (m.service.map (fun s => ("Service", s))).toList ++
  (m.lastSeenHeight.map (fun h => ("Last seen height", toString h.toNat))).toList ++
  (m.lastSeenTime.map (fun t => ("Last seen", t))).toList

def pairs (d : NodeDetail) : List (String × String) :=
  ("Node", d.row.node) ::
  d.row.scores.entries.map (fun (task, score) => (task.header, scoreText true score)) ++
  (d.row.responseTime.map (fun ms => ("Resp. time", latencyText ms))).toList ++
  (d.row.errorRate.map (fun rate => ("Error rate", percentageText rate))).toList ++
  ((d.metadata.map metadataPairs).getD [])

end NodeDetail

def Printer.detail (p : Printer) (d : NodeDetail) : Output := p.item d.toJson d.pairs

end Leaderboard.Report
