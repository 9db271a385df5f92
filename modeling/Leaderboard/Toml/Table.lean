import Leaderboard.Json.Basic

set_option autoImplicit false

namespace Leaderboard.Toml

inductive Origin
  | header
  | passed
  | dotted
deriving Repr, DecidableEq

inductive Node
  | value (content : Json)
  | table (origin : Origin) (entries : List (String × Node))
  | tables (items : List (List (String × Node)))

abbrev Entries := List (String × Node)

namespace Entries

def put (name : String) (node : Node) : Entries → Entries
  | [] => [(name, node)]
  | (other, old) :: rest =>
    if other == name then (name, node) :: rest else (other, old) :: put name node rest

def define (content : Json) : List String → Entries → Option Entries
  | [], _ => none
  | [name], entries =>
    match entries.lookup name with
    | none => some (put name (.value content) entries)
    | some _ => none
  | name :: next :: rest, entries =>
    match entries.lookup name with
    | none =>
      (define content (next :: rest) []).map (fun inner => put name (.table .dotted inner) entries)
    | some (.table .header _) => none
    | some (.table origin inner) =>
      (define content (next :: rest) inner).map (fun inner => put name (.table origin inner) entries)
    | some _ => none

-- Of several tables under one name the last is meant.
def within (change : Entries → Option Entries) : List String → Entries → Option Entries
  | [], entries => change entries
  | name :: rest, entries =>
    match entries.lookup name with
    | none => (within change rest []).map (fun inner => put name (.table .passed inner) entries)
    | some (.table origin inner) =>
      (within change rest inner).map (fun inner => put name (.table origin inner) entries)
    | some (.tables items) =>
      (within change rest (items.getLast?.getD [])).map (fun inner =>
        put name (.tables (items.dropLast ++ [inner])) entries)
    | some (.value _) => none

def openTable (path : List String) (entries : Entries) : Option Entries :=
  match path.getLast? with
  | none => none
  | some name =>
    within (fun around =>
      match around.lookup name with
      | none => some (put name (.table .header []) around)
      | some (.table .passed inner) => some (put name (.table .header inner) around)
      | some _ => none) path.dropLast entries

def openItem (path : List String) (entries : Entries) : Option Entries :=
  match path.getLast? with
  | none => none
  | some name =>
    within (fun around =>
      match around.lookup name with
      | none => some (put name (.tables [[]]) around)
      | some (.tables items) => some (put name (.tables (items ++ [[]])) around)
      | some _ => none) path.dropLast entries

end Entries

mutual

def Node.toJson : Node → Json
  | .value content => content
  | .table _ entries => .object (membersOf entries)
  | .tables items => .list (itemsOf items)

def membersOf : List (String × Node) → List (String × Json)
  | [] => []
  | (name, node) :: rest => (name, node.toJson) :: membersOf rest

def itemsOf : List (List (String × Node)) → List Json
  | [] => []
  | entries :: rest => .object (membersOf entries) :: itemsOf rest

end

end Leaderboard.Toml
