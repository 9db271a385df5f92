import Leaderboard.Json.Basic
import Leaderboard.Text.Case
import Leaderboard.Text.Split

set_option autoImplicit false

namespace Leaderboard.Settings

abbrev Layer := List (String × Json)

def put (name : String) (value : Json) : Layer → Layer
  | [] => [(name, value)]
  | (other, old) :: rest =>
    if other == name then (other, value) :: rest else (other, old) :: put name value rest

def membersOf : Option Json → Layer
  | some (.object members) => members
  | _ => []

mutual

-- A section that sets nothing changes nothing.
def overlay (below : Option Json) : Json → Json
  | .object [] => below.getD (.object [])
  | .object (member :: rest) => .object (overlayMembers (membersOf below) (member :: rest))
  | value => value

def overlayMembers (below : Layer) : Layer → Layer
  | [] => below
  | (name, value) :: rest =>
    let key := Text.fold name
    overlayMembers (put key (overlay (below.lookup key) value) below) rest

end

def isNameChar (c : Char) : Bool := c.isAlphanum || c == '_' || c == '-' || c == ' '

def pathOf (name : String) : List String :=
  let parts := Text.splitAll '.' name.toList
  if parts.all (fun part => !part.isEmpty && part.all isNameChar) then parts.map String.ofList
  else [name]

def nest (value : Json) : List String → Json
  | [] => value
  | name :: rest => .object [(name, nest value rest)]

def expand (entry : String × Json) : String × Json :=
  match pathOf entry.1 with
  | [] => entry
  | name :: rest => (name, nest entry.2 rest)

def lay (below above : Layer) : Layer := overlayMembers below (above.map expand)

def stack (layers : List Layer) : Layer := layers.foldl lay []

end Leaderboard.Settings
