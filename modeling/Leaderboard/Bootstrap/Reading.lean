import Leaderboard.Bootstrap.Plan

set_option autoImplicit false

namespace Leaderboard.Bootstrap

inductive Fields
  | named (fields : SortedMap String Json)
  | ordered (items : List Json)

namespace Fields

def ofJson? (count : Nat) : Json → Option Fields
  | .object members => some (.named (Json.memberMap members))
  | .list items => if items.length ≤ count then some (.ordered items) else none
  | _ => none

def find? (f : Fields) (name : String) (place : Nat) : Option Json :=
  match f with
  | named fields => fields.find? name
  | ordered items => items[place]?

end Fields

def textOf? : Json → Option String
  | .text s => some s
  | _ => none

def flagOf? : Json → Option Bool
  | .boolean b => some b
  | _ => none

def directionOf? : Json → Option Int
  | .integer n => if -0x80000000 ≤ n && n < 0x80000000 then some n else none
  | _ => none

def listOf? {α : Type} (read : Json → Option α) : Json → Option (List α)
  | .list items => items.mapM read
  | _ => none

def readOr {α : Type} (fallback : α) (read : Json → Option α) : Option Json → Option α
  | none => some fallback
  | some value => read value

def readPart? {α : Type} (read : Json → Option α) (f : Fields) (name : String) (place : Nat) :
    Option (Option α) :=
  match f, f.find? name place with
  | _, some .null => some none
  | _, some value => (read value).map some
  | .named _, none => some none
  | .ordered _, none => none

namespace IndexKey

def ofJson? (j : Json) : Option IndexKey := do
  let f ← Fields.ofJson? 2 j
  return ⟨← (← f.find? "field" 0) |> textOf?, ← (← f.find? "direction" 1) |> directionOf?⟩

end IndexKey

namespace Index

def ofJson? (j : Json) : Option Index := do
  let f ← Fields.ofJson? 2 j
  let keys ← (← f.find? "keys" 0) |> listOf? IndexKey.ofJson?
  return ⟨keys, ← readOr false flagOf? (f.find? "unique" 1)⟩

end Index

namespace Collection

def ofJson? (j : Json) : Option Collection := do
  let f ← Fields.ofJson? 2 j
  let name ← (← f.find? "name" 0) |> textOf?
  return ⟨name, ← readOr [] (listOf? Index.ofJson?) (f.find? "indexes" 1)⟩

end Collection

namespace AppUser

def ofJson? (j : Json) : Option AppUser := do
  let f ← Fields.ofJson? 4 j
  return ⟨← (← f.find? "username_env" 0) |> textOf?, ← (← f.find? "password_env" 1) |> textOf?,
    ← (← f.find? "database_env" 2) |> textOf?, ← (← f.find? "role" 3) |> textOf?⟩

end AppUser

namespace ReplicaSet

def ofJson? (j : Json) : Option ReplicaSet := do
  let f ← Fields.ofJson? 2 j
  return ⟨← (← f.find? "id" 0) |> textOf?, ← (← f.find? "members" 1) |> listOf? textOf?⟩

end ReplicaSet

namespace Plan

def ofJson? (j : Json) : Option Plan := do
  let f ← Fields.ofJson? 4 j
  let database ← (← f.find? "database" 0) |> textOf?
  let collections ← (← f.find? "collections" 1) |> listOf? Collection.ofJson?
  return ⟨database, collections, ← readPart? AppUser.ofJson? f "app_user" 2,
    ← readPart? ReplicaSet.ofJson? f "replica_set" 3⟩

end Plan

end Leaderboard.Bootstrap
