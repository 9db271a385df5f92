import Leaderboard.Data.SortedMap
import Leaderboard.Decimal.Parts

set_option autoImplicit false

namespace Leaderboard

inductive Json
  | null
  | boolean (value : Bool)
  | integer (value : Int)
  | real (value : Float)
  | text (value : String)
  | list (items : List Json)
  | object (members : List (String × Json))
deriving Inhabited

namespace Json

def isNull : Json → Bool
  | .null => true
  | _ => false

def nat (n : Nat) : Json := .integer n

def optionalText : Option String → Json
  | some s => .text s
  | none => .null

def realOfInt (n : Int) : Float := Decimal.nearest (n < 0) n.natAbs 1

def memberMap (members : List (String × Json)) : SortedMap String Json :=
  SortedMap.ofList members

mutual

def canonical : Json → Json
  | .list items => .list (canonicalItems items)
  | .object members => .object (memberMap (canonicalMembers members)).entries
  | other => other

def canonicalItems : List Json → List Json
  | [] => []
  | item :: rest => canonical item :: canonicalItems rest

def canonicalMembers : List (String × Json) → List (String × Json)
  | [] => []
  | (name, value) :: rest => (name, canonical value) :: canonicalMembers rest

end

end Json

end Leaderboard
