import Leaderboard.Command.Context
import Leaderboard.CommandLine.Invocation
import Leaderboard.Refresh.Actor
import Leaderboard.Watch.Screen

set_option autoImplicit false

namespace Leaderboard.Command

open CommandLine (RowsRequest)

def planFor (c : Context) (period : Refresh.Span) : Refresh.Plan :=
  ⟨period.nanoseconds / 1000000, c.settings.refresh.refetchOnReconnect⟩

structure Watching where
  source : Source
  plan : Refresh.Plan
  filter : String
  view : Watch.View

def prepareWatching (c : Context) (request : RowsRequest) (intervalMs : Option UInt64) :
    Except Trouble Watching := do
  let (key, order) ← c.sorting request.sort request.ascending
  let source ← c.source
  let period ← c.checkedPeriod intervalMs
  return ⟨source, planFor c period, request.filter, ⟨c.printer, key, order, period⟩⟩

structure Serving where
  address : Net.SocketAddress
  source : Source
  plan : Refresh.Plan
  theme : Theme
  display : DisplaySettings

def listenAddress (c : Context) (asked : Option String) : Except Trouble Net.SocketAddress :=
  match asked with
  | none => c.settings.server.address.mapError (fun e => Trouble.ofFailure e.failure)
  | some text =>
    match Net.SocketAddress.parse? text with
    | some address => .ok address
    | none => .error ((Trouble.ofText Net.SocketAddress.syntaxMessage).during
        ("Invalid bind address '" ++ text ++ "'"))

def prepareServing (c : Context) (bind : Option String) (intervalMs : Option UInt64)
    (theme : Theme) : Except Trouble Serving := do
  let address ← listenAddress c bind
  let source ← c.source
  let period ← c.checkedPeriod intervalMs
  return ⟨address, source, planFor c period, theme, c.settings.display⟩

def bindTrouble (address reason : String) : Trouble :=
  (Trouble.ofText reason).during ("Failed to bind " ++ address)

def addressInUse : String := "Address already in use (os error 98)"

end Leaderboard.Command
