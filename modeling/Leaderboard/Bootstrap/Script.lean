import Leaderboard.Bootstrap.Validity
import Leaderboard.Json.Writer

set_option autoImplicit false

namespace Leaderboard.Bootstrap

inductive Segment
  | code (source : String)
  | literal (content : String)
  | verbatim (content : String)
deriving Repr, DecidableEq

def Segment.text : Segment → String
  | code source => source
  | literal content => Json.textLiteral content
  | verbatim content => content

abbrev Line := List Segment

namespace Line

def text (l : Line) : String := String.join (l.map Segment.text)

def fixed (source : String) : Line := [.code source]

end Line

namespace Script

def separated (separator : String) : List Line → Line
  | [] => []
  | [entry] => entry
  | entry :: next :: rest => entry ++ .code separator :: separated separator (next :: rest)

def headLines (database : String) : List Line := [
  [.code "// Database bootstrap for ", .verbatim database],
  .fixed "// Safe to run repeatedly.",
  .fixed ""]

def memberSegments (member : String × Nat) : Line :=
  [.code ("\x7b_id: " ++ toString member.2 ++ ", host: "), .literal member.1, .code "\x7d"]

def replicaSetLines (r : ReplicaSet) : List Line := [
  .fixed "try \x7b",
  .fixed "    rs.conf();",
  .fixed "\x7d catch (err) \x7b",
  [.code "    print('initiating replica set ", .verbatim r.id, .code "');"],
  [.code "    rs.initiate(\x7b_id: ", .literal r.id, .code ", version: 1, members: ["] ++
    separated ", " (r.members.zipIdx.map memberSegments) ++ [.code "]\x7d);"],
  .fixed "    for (let i = 0; i < 100 && !db.hello().isWritablePrimary; i++) \x7b",
  .fixed "        sleep(100);",
  .fixed "    \x7d",
  .fixed "\x7d",
  .fixed ""]

def databaseLines (database : String) : List Line := [
  [.code "db = db.getSiblingDB(", .literal database, .code ");"],
  .fixed "",
  .fixed "const existing = db.getCollectionNames();",
  .fixed "function ensureCollection(name) \x7b",
  .fixed "    if (!existing.includes(name)) \x7b",
  .fixed "        db.createCollection(name);",
  .fixed "        print(`created collection $\x7bname\x7d`);",
  .fixed "    \x7d",
  .fixed "\x7d"]

def keySegments (k : IndexKey) : Line :=
  [.literal k.field, .code (": " ++ toString k.direction)]

def indexLine (collection : String) (i : Index) : Line :=
  [.code "db.getCollection(", .literal collection, .code ").createIndex(\x7b"] ++
  separated ", " (i.keys.map keySegments) ++
  [.code (if i.unique then "\x7d, \x7bunique: true\x7d);" else "\x7d);")]

def collectionLines (c : Collection) : List Line :=
  .fixed "" ::
  [.code "ensureCollection(", .literal c.name, .code ");"] ::
  c.indexes.map (indexLine c.name)

def userLines (u : AppUser) : List Line := [
  .fixed "",
  [.code "const userName = process.env.", .verbatim u.usernameEnv, .code ";"],
  [.code "const password = process.env.", .verbatim u.passwordEnv, .code ";"],
  [.code "const userDb = process.env.", .verbatim u.databaseEnv, .code ";"],
  .fixed "if (!userName || !password || !userDb) \x7b",
  [.code "    print('", .verbatim u.usernameEnv, .code ", ", .verbatim u.passwordEnv,
    .code " and ", .verbatim u.databaseEnv, .code " must be set');"],
  .fixed "    quit(1);",
  .fixed "\x7d",
  .fixed "const authDb = db.getSiblingDB(userDb);",
  .fixed "if (authDb.getUser(userName) === null) \x7b",
  [.code "    authDb.createUser(\x7buser: userName, pwd: password, roles: [\x7brole: ",
    .literal u.role, .code ", db: userDb\x7d]\x7d);"],
  .fixed "\x7d"]

def lines (p : Plan) : List Line :=
  headLines p.database ++
  (p.replicaSet.map replicaSetLines).getD [] ++
  databaseLines p.database ++
  p.collections.flatMap collectionLines ++
  (p.appUser.map userLines).getD []

def textOf (lines : List Line) : String := String.join (lines.map (fun l => l.text ++ "\n"))

end Script

namespace Plan

def script (p : Plan) : Except PlanFault String := do
  p.check
  return Script.textOf (Script.lines p)

end Plan

end Leaderboard.Bootstrap
