import Leaderboard.Bootstrap.Script
import Leaderboard.Report.Printer
import Leaderboard.Settings.Basic

set_option autoImplicit false

namespace Leaderboard.Bootstrap

open Report (Format Output)

structure Request where
  database : Option String
  noReplicaSet : Bool
  noUser : Bool
  showPlan : Bool
deriving Repr, DecidableEq

def withConfiguredReplicaSet (db : DatabaseSettings) (unwanted : Bool) (p : Plan) : Plan :=
  match db.replicaSet with
  | some id => if unwanted then p else p.withReplicaSet (.single id db.replicaHost)
  | none => p

def assemble (db : DatabaseSettings) (r : Request) : Plan :=
  let plan := withConfiguredReplicaSet db r.noReplicaSet (.testbench (r.database.getD db.name))
  if r.noUser then plan.withoutAppUser else plan

def output (format : Format) (showPlan : Bool) (p : Plan) : Except PlanFault Output :=
  if showPlan then
    .ok (match format with
      | .yaml => .verbatim (Yaml.document p.toJson)
      | _ => .line p.toJson.pretty)
  else p.script.map Output.verbatim

def print (db : DatabaseSettings) (format : Format) (r : Request) : Except Trouble Output :=
  let plan := assemble db r
  match plan.check with
  | .error fault => .error ((Trouble.ofFailure fault.failure).during "Invalid bootstrap plan")
  | .ok () =>
    match output format r.showPlan plan with
    | .error fault => .error (Trouble.ofFailure fault.failure)
    | .ok out => .ok out

end Leaderboard.Bootstrap
