import Leaderboard.Row.Filter
import Leaderboard.Decimal.Rounding

set_option autoImplicit false

namespace Leaderboard

structure Score where
  value : Float
  stderr : Float
deriving DecidableEq

namespace Score

def ofSample (s : Sample) : Score := ⟨s.mean * 100.0, s.stderr * 100.0⟩

def shownValue (s : Score) : Float := Decimal.round2 s.value

def shownStderr (s : Score) : Float := Decimal.round2 s.stderr

end Score

structure Row where
  node : NodeId
  scores : SortedMap Task Score
  responseTime : Option Float
  errorRate : Option Float
deriving DecidableEq

namespace Row

def score? (r : Row) (task : Task) : Option Score := r.scores.find? task

def hasQos (r : Row) : Bool := r.responseTime.isSome || r.errorRate.isSome

def ofRecord (node : NodeId) (record : NodeRecord) : Row where
  node := node
  scores := record.samples.mapValues (fun _ sample => Score.ofSample sample)
  responseTime := record.qos.map (·.responseTime)
  errorRate := record.qos.map (·.errorRate)

def members (r : Row) : List (String × Json) :=
  ("node", .text r.node) ::
  Task.all.flatMap (fun task =>
    match r.score? task with
    | some score =>
      [(task.name, .real score.shownValue), (task.stderrName, .real score.shownStderr)]
    | none => []) ++
  (r.responseTime.map (fun ms => ("response_time", Json.real ms))).toList ++
  (r.errorRate.map (fun rate => ("error_rate", Json.real rate))).toList

def toJson (r : Row) : Json := .object r.members

end Row

-- Nodes asked for by name that the dataset does not know are left out.
def projectWith (data : Dataset) : NodeFilter → List Row
  | .all => data.entries.map (fun e => Row.ofRecord e.1 e.2)
  | .only nodes => nodes.keys.filterMap (fun node => (data.find? node).map (Row.ofRecord node))

def project (data : Dataset) (filterText : String) : List Row :=
  projectWith data (NodeFilter.parse filterText)

end Leaderboard
