import Leaderboard.Refresh.State
import Leaderboard.Row.Sort
import Leaderboard.Settings.Basic
import Leaderboard.Text.FormEncoding

set_option autoImplicit false

namespace Leaderboard.Dashboard

open Refresh (Snapshot)

structure RowsQuery where
  filter : Option String
  sort : Option String
  order : Option String
  tab : Option String
deriving Repr, DecidableEq

structure RowsView where
  rows : List Row
  filter : String
  key : SortKey
  order : SortOrder
deriving DecidableEq

namespace RowsQuery

def valuesOf (pairs : List (String × String)) (name : String) : List String :=
  (pairs.filter (fun pair => pair.1 == name)).map (·.2)

def single : List String → Option (Option String)
  | [] => some none
  | [value] => some (some value)
  | _ => none

-- Unknown parameters do not count; a known one given twice makes the query unreadable.
def ofText? (query : String) : Option RowsQuery := do
  let pairs := Text.formPairs query
  let filter ← single (valuesOf pairs "filter")
  let sort ← single (valuesOf pairs "sort")
  let order ← single (valuesOf pairs "order")
  let tab ← single (valuesOf pairs "tab")
  return ⟨filter, sort, order, tab⟩

def known {α : Type} (named : Except UnknownName α) : Except Failure α :=
  match named with
  | .ok value => .ok value
  | .error e => .error ⟨.invalidRequest, e.message⟩

def orderFor (q : RowsQuery) (display : DisplaySettings) : Except Failure SortOrder :=
  match q.order with
  | some word => known (SortOrder.ofName word)
  | none => .ok (SortOrder.ofDescending display.descending)

def choose (q : RowsQuery) (snapshot : Snapshot) : List Row × String :=
  match q.filter, snapshot.dataset with
  | some filter, some dataset => (project dataset filter, filter)
  | some filter, none => ([], filter)
  | none, _ => (snapshot.rows, snapshot.filter)

def resolve (q : RowsQuery) (snapshot : Snapshot) (display : DisplaySettings) :
    Except Failure RowsView := do
  let key ← known (SortKey.ofName (q.sort.getD display.sortBy))
  let order ← q.orderFor display
  let (rows, filter) := q.choose snapshot
  return ⟨sortRows key order rows, filter, key, order⟩

end RowsQuery

end Leaderboard.Dashboard
