import Leaderboard.Json.Basic

set_option autoImplicit false

namespace Leaderboard.Bootstrap

structure IndexKey where
  field : String
  direction : Int
deriving Repr, DecidableEq

structure Index where
  keys : List IndexKey
  unique : Bool
deriving Repr, DecidableEq

structure Collection where
  name : String
  indexes : List Index
deriving Repr, DecidableEq

structure AppUser where
  usernameEnv : String
  passwordEnv : String
  databaseEnv : String
  role : String
deriving Repr, DecidableEq

structure ReplicaSet where
  id : String
  members : List String
deriving Repr, DecidableEq

structure Plan where
  database : String
  collections : List Collection
  appUser : Option AppUser
  replicaSet : Option ReplicaSet
deriving Repr, DecidableEq

namespace IndexKey

def toJson (k : IndexKey) : Json :=
  .object [("field", .text k.field), ("direction", .integer k.direction)]

end IndexKey

namespace Index

def ascending (fields : List String) : Index := ⟨fields.map (fun f => ⟨f, 1⟩), false⟩

def ascendingUnique (fields : List String) : Index := { ascending fields with unique := true }

def toJson (i : Index) : Json :=
  .object [("keys", .list (i.keys.map IndexKey.toJson)), ("unique", .boolean i.unique)]

end Index

namespace Collection

def toJson (c : Collection) : Json :=
  .object [("name", .text c.name), ("indexes", .list (c.indexes.map Index.toJson))]

end Collection

namespace AppUser

def default : AppUser where
  usernameEnv := "MONGO_INITDB_ROOT_USERNAME"
  passwordEnv := "MONGO_INITDB_ROOT_PASSWORD"
  databaseEnv := "MONGO_INITDB_DATABASE"
  role := "readWrite"

def toJson (u : AppUser) : Json :=
  .object [("username_env", .text u.usernameEnv), ("password_env", .text u.passwordEnv),
    ("database_env", .text u.databaseEnv), ("role", .text u.role)]

end AppUser

namespace ReplicaSet

def single (id host : String) : ReplicaSet := ⟨id, [host]⟩

def toJson (r : ReplicaSet) : Json :=
  .object [("id", .text r.id), ("members", .list (r.members.map Json.text))]

end ReplicaSet

namespace Plan

def taskIdentity : List String :=
  ["tasks", "framework", "requester_args.address", "requester_args.service", "done", "evaluated",
    "drop"]

def bufferIdentity : List String := ["task_data.node_id", "task_data.framework", "task_data.task"]

def pipelineCollections : List Collection := [
  ⟨"tokenizers", [Index.ascendingUnique ["hash"]]⟩,
  ⟨"tasks", [Index.ascending taskIdentity]⟩,
  ⟨"instances", [Index.ascending ["task_id", "done"]]⟩,
  ⟨"prompts", [Index.ascending ["task_id", "instance_id", "done"]]⟩,
  ⟨"responses", [Index.ascending ["task_id", "instance_id", "prompt_id", "ok"]]⟩,
  ⟨"nodes", [Index.ascendingUnique ["address", "service"]]⟩,
  ⟨"results", [Index.ascendingUnique ["results_data.task_id"]]⟩,
  ⟨"buffers_numerical", [Index.ascendingUnique bufferIdentity]⟩,
  ⟨"buffers_signatures", [Index.ascendingUnique bufferIdentity]⟩]

def testbench (database : String) : Plan :=
  ⟨database, pipelineCollections, some .default, none⟩

def withReplicaSet (p : Plan) (r : ReplicaSet) : Plan := { p with replicaSet := some r }

def withoutAppUser (p : Plan) : Plan := { p with appUser := none }

def collection? (p : Plan) (name : String) : Option Collection :=
  p.collections.find? (fun c => c.name == name)

def toJson (p : Plan) : Json :=
  .object [("database", .text p.database),
    ("collections", .list (p.collections.map Collection.toJson)),
    ("app_user", (p.appUser.map AppUser.toJson).getD .null),
    ("replica_set", (p.replicaSet.map ReplicaSet.toJson).getD .null)]

end Plan

end Leaderboard.Bootstrap
