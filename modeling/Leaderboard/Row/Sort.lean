import Leaderboard.Row.Basic

set_option autoImplicit false

namespace Leaderboard

inductive SortKey
  | node
  | task (task : Task)
  | responseTime
  | errorRate
deriving Repr, DecidableEq

namespace SortKey

def default : SortKey := .task .average

def name : SortKey → String
  | node => "node"
  | task t => t.name
  | responseTime => "response_time"
  | errorRate => "error_rate"

def ofFolded? (word : String) : Option SortKey :=
  if word == "node" then some node
  else if word == "response_time" || word == "response-time" || word == "latency" then
    some responseTime
  else if word == "error_rate" || word == "error-rate" then some errorRate
  else (Task.ofName? word).map task

def ofName (word : String) : Except UnknownName SortKey :=
  match ofFolded? (Text.fold word) with
  | some key => .ok key
  | none => .error ⟨.sortKey, word⟩

end SortKey

inductive SortOrder
  | ascending
  | descending
deriving Repr, DecidableEq

namespace SortOrder

def ofName (word : String) : Except UnknownName SortOrder :=
  let folded := Text.fold word
  if folded == "asc" || folded == "ascending" then .ok ascending
  else if folded == "desc" || folded == "descending" then .ok descending
  else .error ⟨.sortOrder, word⟩

def ofDescending (descends : Bool) : SortOrder := if descends then descending else ascending

def direct : SortOrder → Ordering → Ordering
  | ascending, o => o
  | descending, o => o.swap

end SortOrder

namespace Row

def sortValue (r : Row) : SortKey → Option Float
  | .node => none
  | .task t => (r.score? t).map (·.value)
  | .responseTime => r.responseTime
  | .errorRate => r.errorRate

-- A number that is not comparable counts as equal.
def compareNumbers (x y : Float) : Ordering :=
  if x < y then .lt else if y < x then .gt else .eq

-- Absent values stand behind all others in either direction.
def compareValues (order : SortOrder) : Option Float → Option Float → Ordering
  | some x, some y => order.direct (compareNumbers x y)
  | some _, none => .lt
  | none, some _ => .gt
  | none, none => .eq

def compareBy (key : SortKey) (order : SortOrder) (a b : Row) : Ordering :=
  match key with
  | .node => order.direct (compare a.node b.node)
  | key => (compareValues order (a.sortValue key) (b.sortValue key)).then (compare a.node b.node)

end Row

def sortRows (key : SortKey) (order : SortOrder) (rows : List Row) : List Row :=
  rows.mergeSort (fun a b => Row.compareBy key order a b != .gt)

end Leaderboard
