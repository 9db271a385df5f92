import Leaderboard.Bootstrap.Plan
import Leaderboard.Failure
import Leaderboard.Text.Blank

set_option autoImplicit false

namespace Leaderboard.Bootstrap

inductive PlanFault
  | blankDatabase
  | databaseCharacter (database : String) (c : Char)
  | blankCollection
  | reservedCollection (name : String)
  | duplicateCollection (name : String)
  | noKeys (collection : String)
  | blankField (collection : String)
  | wrongDirection (field collection : String) (direction : Int)
  | repeatedField (collection field : String)
  | noVariable
  | noRole
  | blankReplicaSet
  | noMembers (id : String)
deriving Repr, DecidableEq

def PlanFault.message : PlanFault → String
  | blankDatabase => "Database name cannot be empty"
  | databaseCharacter database c =>
    "Database name '" ++ database ++ "' contains invalid character '" ++ c.toString ++ "'"
  | blankCollection => "Collection name cannot be empty"
  | reservedCollection name => "Collection name '" ++ name ++ "' is reserved"
  | duplicateCollection name => "Duplicate collection '" ++ name ++ "'"
  | noKeys collection => "Index on '" ++ collection ++ "' has no keys"
  | blankField collection => "Index on '" ++ collection ++ "' has an empty field name"
  | wrongDirection field collection direction =>
    "Index key '" ++ field ++ "' on '" ++ collection ++ "' has direction " ++ toString direction ++
      ", expected 1 or -1"
  | repeatedField collection field =>
    "Index on '" ++ collection ++ "' repeats field '" ++ field ++ "'"
  | noVariable => "App user environment variable names cannot be empty"
  | noRole => "App user role cannot be empty"
  | blankReplicaSet => "Replica set id cannot be empty"
  | noMembers id => "Replica set '" ++ id ++ "' has no members"

def PlanFault.failure (f : PlanFault) : Failure := ⟨.schema, f.message⟩

def isForbidden (c : Char) : Bool :=
  c == '/' || c == '\\' || c == '.' || c == ' ' || c == '"' || c == '$'

def checkDatabase (name : String) : Except PlanFault Unit :=
  if Text.allBlank name then .error .blankDatabase
  else
    match name.toList.find? isForbidden with
    | some c => .error (.databaseCharacter name c)
    | none => .ok ()

def checkKeys (collection : String) : List String → List IndexKey → Except PlanFault Unit
  | _, [] => .ok ()
  | seen, key :: rest =>
    if Text.allBlank key.field then .error (.blankField collection)
    else if key.direction != 1 && key.direction != -1 then
      .error (.wrongDirection key.field collection key.direction)
    else if seen.contains key.field then .error (.repeatedField collection key.field)
    else checkKeys collection (key.field :: seen) rest

def checkIndex (collection : String) (index : Index) : Except PlanFault Unit :=
  if index.keys.isEmpty then .error (.noKeys collection)
  else checkKeys collection [] index.keys

def checkIndexes (collection : String) : List Index → Except PlanFault Unit
  | [] => .ok ()
  | index :: rest =>
    match checkIndex collection index with
    | .error fault => .error fault
    | .ok () => checkIndexes collection rest

def isReserved (name : String) : Bool := name.toList.take 7 == "system.".toList

def checkName (seen : List String) (name : String) : Except PlanFault Unit :=
  if Text.allBlank name then .error .blankCollection
  else if isReserved name then .error (.reservedCollection name)
  else if seen.contains name then .error (.duplicateCollection name)
  else .ok ()

def checkCollections : List String → List Collection → Except PlanFault Unit
  | _, [] => .ok ()
  | seen, c :: rest =>
    match checkName seen c.name with
    | .error fault => .error fault
    | .ok () =>
      match checkIndexes c.name c.indexes with
      | .error fault => .error fault
      | .ok () => checkCollections (c.name :: seen) rest

def checkUser : Option AppUser → Except PlanFault Unit
  | none => .ok ()
  | some user =>
    if user.usernameEnv.isEmpty || user.passwordEnv.isEmpty || user.databaseEnv.isEmpty then
      .error .noVariable
    else if user.role.isEmpty then .error .noRole
    else .ok ()

def checkReplicaSet : Option ReplicaSet → Except PlanFault Unit
  | none => .ok ()
  | some r =>
    if Text.allBlank r.id then .error .blankReplicaSet
    else if r.members.isEmpty then .error (.noMembers r.id)
    else .ok ()

namespace Plan

def check (p : Plan) : Except PlanFault Unit := do
  checkDatabase p.database
  checkCollections [] p.collections
  checkUser p.appUser
  checkReplicaSet p.replicaSet

end Plan

end Leaderboard.Bootstrap
