import Leaderboard.Json.Basic

set_option autoImplicit false

namespace Leaderboard

structure SourceSettings where
  endpointUrl : String
  requestTimeoutSecs : UInt64
deriving Repr, DecidableEq

structure RefreshSettings where
  intervalMs : UInt64
  refetchOnReconnect : Bool
deriving Repr, DecidableEq

structure DisplaySettings where
  showStderr : Bool
  sortBy : String
  descending : Bool
deriving Repr, DecidableEq

structure ServerSettings where
  bindAddr : String
deriving Repr, DecidableEq

structure ObservabilitySettings where
  logLevel : String
  logFormat : String
deriving Repr, DecidableEq

structure DatabaseSettings where
  name : String
  replicaSet : Option String
  replicaHost : String
deriving Repr, DecidableEq

structure Settings where
  source : SourceSettings
  refresh : RefreshSettings
  display : DisplaySettings
  server : ServerSettings
  observability : ObservabilitySettings
  database : DatabaseSettings
deriving Repr, DecidableEq

namespace SourceSettings

def default : SourceSettings := ⟨"http://localhost:8000/leaderboard", 30⟩

def toJson (s : SourceSettings) : Json :=
  .object [("endpoint_url", .text s.endpointUrl),
    ("request_timeout_secs", .nat s.requestTimeoutSecs.toNat)]

end SourceSettings

namespace RefreshSettings

def default : RefreshSettings := ⟨60000, true⟩

def toJson (s : RefreshSettings) : Json :=
  .object [("interval_ms", .nat s.intervalMs.toNat),
    ("refetch_on_reconnect", .boolean s.refetchOnReconnect)]

end RefreshSettings

namespace DisplaySettings

def default : DisplaySettings := ⟨false, "average", true⟩

def toJson (s : DisplaySettings) : Json :=
  .object [("show_stderr", .boolean s.showStderr), ("sort_by", .text s.sortBy),
    ("descending", .boolean s.descending)]

end DisplaySettings

namespace ServerSettings

def default : ServerSettings := ⟨"127.0.0.1:8080"⟩

def toJson (s : ServerSettings) : Json := .object [("bind_addr", .text s.bindAddr)]

end ServerSettings

namespace ObservabilitySettings

def default : ObservabilitySettings := ⟨"info", "text"⟩

def toJson (s : ObservabilitySettings) : Json :=
  .object [("log_level", .text s.logLevel), ("log_format", .text s.logFormat)]

end ObservabilitySettings

namespace DatabaseSettings

def default : DatabaseSettings := ⟨"pocket-ml-testbench", some "devRs", "mongodb:27017"⟩

def toJson (s : DatabaseSettings) : Json :=
  .object [("name", .text s.name), ("replica_set", .optionalText s.replicaSet),
    ("replica_host", .text s.replicaHost)]

end DatabaseSettings

namespace Settings

def default : Settings := ⟨.default, .default, .default, .default, .default, .default⟩

def toJson (s : Settings) : Json :=
  .object [("source", s.source.toJson), ("refresh", s.refresh.toJson),
    ("display", s.display.toJson), ("server", s.server.toJson),
    ("observability", s.observability.toJson), ("database", s.database.toJson)]

end Settings

end Leaderboard
