import Leaderboard.Report.Printer
import Leaderboard.Settings.Loading
import Leaderboard.Source

set_option autoImplicit false

namespace Leaderboard.Command

open Report (Format Output Printer)

structure Context where
  settings : Settings
  file : Option String
  format : Format
  colored : Bool

structure Outcome where
  output : Output
  result : Except Trouble Bool

namespace Outcome

def done (output : Output) : Outcome := ⟨output, .ok true⟩

def failed (output : Output) (trouble : Trouble) : Outcome := ⟨output, .error trouble⟩

def orStop {α : Type} (step : Except Trouble α) (next : α → Outcome) : Outcome :=
  match step with
  | .ok value => next value
  | .error trouble => failed .empty trouble

end Outcome

namespace Context

def source (c : Context) : Except Trouble Source :=
  match c.file with
  | some path => .ok (.file path)
  | none =>
    match Source.ofEndpoint c.settings.source.endpointUrl c.settings.source.requestTimeoutSecs with
    | .ok source => .ok source
    | .error e => .error ((Trouble.ofFailure e.failure).during "Failed to create leaderboard client")

def printer (c : Context) : Printer := ⟨c.format, c.settings.display.showStderr, c.colored⟩

def sortKey (c : Context) (asked : Option String) : Except Trouble SortKey :=
  match asked with
  | some word => (SortKey.ofName word).mapError (fun e => Trouble.ofText e.message)
  | none => c.settings.display.sortKey.mapError (fun e => Trouble.ofFailure e.failure)

def sorting (c : Context) (asked : Option String) (ascending : Bool) :
    Except Trouble (SortKey × SortOrder) := do
  let key ← c.sortKey asked
  return (key, if ascending then .ascending else c.settings.display.sortOrder)

def period (c : Context) (askedMs : Option UInt64) : Refresh.Span :=
  match askedMs with
  | some ms => .ofMilliseconds ms.toNat
  | none => c.settings.refresh.interval

def checkedPeriod (c : Context) (askedMs : Option UInt64) : Except Trouble Refresh.Span :=
  let period := c.period askedMs
  match Refresh.checkPeriod period with
  | .ok () => .ok period
  | .error e => .error ((Trouble.ofFailure e).during "Invalid refresh interval")

end Context

end Leaderboard.Command
