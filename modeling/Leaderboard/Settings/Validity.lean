import Leaderboard.Net.Socket
import Leaderboard.Refresh.Period
import Leaderboard.Row.Sort
import Leaderboard.Settings.Basic
import Leaderboard.Text.Blank
import Leaderboard.Url.Basic

set_option autoImplicit false

namespace Leaderboard

inductive SettingsFault
  | endpointUrl (text : String) (reason : Url.UrlError)
  | endpointScheme (scheme : String)
  | requestTimeout
  | period (reason : Failure)
  | sortKey (reason : UnknownName)
  | bindAddress (text : String)
  | logFormat (text : String)
  | databaseName
  | replicaHost
deriving Repr, DecidableEq

namespace SettingsFault

def message : SettingsFault → String
  | endpointUrl text reason => "Invalid endpoint URL '" ++ text ++ "': " ++ reason.message
  | endpointScheme scheme => "Endpoint URL must be http or https, got '" ++ scheme ++ "'"
  | requestTimeout => "Request timeout must be > 0"
  | period reason => reason.detail
  | sortKey reason => reason.message
  | bindAddress text =>
    "Invalid bind address '" ++ text ++ "': " ++ Net.SocketAddress.syntaxMessage
  | logFormat text => "Log format must be 'text' or 'json', got '" ++ text ++ "'"
  | databaseName => "Database name cannot be empty"
  | replicaHost => "Replica set requires a member host"

def failure (f : SettingsFault) : Failure := ⟨.configuration, f.message⟩

end SettingsFault

def SourceSettings.check (s : SourceSettings) : Except SettingsFault Unit :=
  match Url.parse s.endpointUrl with
  | .error reason => .error (.endpointUrl s.endpointUrl reason)
  | .ok url =>
    if !url.isWeb then .error (.endpointScheme url.scheme)
    else if s.requestTimeoutSecs == 0 then .error .requestTimeout
    else .ok ()

def RefreshSettings.interval (s : RefreshSettings) : Refresh.Span :=
  .ofMilliseconds s.intervalMs.toNat

def RefreshSettings.check (s : RefreshSettings) : Except SettingsFault Unit :=
  (Refresh.checkPeriod s.interval).mapError .period

def DisplaySettings.sortKey (s : DisplaySettings) : Except SettingsFault SortKey :=
  (SortKey.ofName s.sortBy).mapError .sortKey

def DisplaySettings.sortOrder (s : DisplaySettings) : SortOrder := .ofDescending s.descending

def DisplaySettings.check (s : DisplaySettings) : Except SettingsFault Unit :=
  s.sortKey.map (fun _ => ())

def ServerSettings.address (s : ServerSettings) : Except SettingsFault Net.SocketAddress :=
  match Net.SocketAddress.parse? s.bindAddr with
  | some address => .ok address
  | none => .error (.bindAddress s.bindAddr)

def ServerSettings.check (s : ServerSettings) : Except SettingsFault Unit :=
  s.address.map (fun _ => ())

def ObservabilitySettings.check (s : ObservabilitySettings) : Except SettingsFault Unit :=
  if s.logFormat == "text" || s.logFormat == "json" then .ok ()
  else .error (.logFormat s.logFormat)

def DatabaseSettings.check (s : DatabaseSettings) : Except SettingsFault Unit :=
  if Text.allBlank s.name then .error .databaseName
  else if s.replicaSet.isSome && Text.allBlank s.replicaHost then .error .replicaHost
  else .ok ()

def Settings.check (s : Settings) : Except SettingsFault Unit := do
  s.source.check
  s.refresh.check
  s.display.check
  s.server.check
  s.observability.check
  s.database.check

end Leaderboard
