import Leaderboard.Decimal.Reading
import Leaderboard.Decimal.Layout
import Leaderboard.Settings.Basic
import Leaderboard.Settings.Layer

set_option autoImplicit false

namespace Leaderboard.Settings

-- Beyond this integer a layer keeps the nearest floating number.
def exactLimit : Int := Decimal.twoTo 63

def yesWords : List String := ["true", "on", "yes"]

def noWords : List String := ["false", "off", "no"]

def flag? : Json → Option Bool
  | .boolean b => some b
  | .integer n => some (n != 0)
  | .real x => some (x != 0.0)
  | .text s =>
    let word := Text.fold s
    if word == "1" || yesWords.contains word then some true
    else if word == "0" || noWords.contains word then some false
    else none
  | _ => none

def roundedNatural (x : Float) : UInt64 := x.round.toUInt64

def natural? : Json → Option UInt64
  | .integer n =>
    if n < 0 then none
    else if n < exactLimit then some (UInt64.ofNat n.toNat)
    else some (roundedNatural (Json.realOfInt n))
  | .boolean b => some (if b then 1 else 0)
  | .real x => some (roundedNatural x)
  | .text s =>
    let word := Text.fold s
    if yesWords.contains word then some 1
    else if noWords.contains word then some 0
    else Decimal.natural64? s.toList
  | _ => none

def text? : Json → Option String
  | .text s => some s
  | .boolean b => some (toString b)
  | .integer n =>
    some (if n < exactLimit then toString n else Decimal.plainText (Json.realOfInt n))
  | .real x => some (Decimal.plainText x)
  | _ => none

def optionalText? : Json → Option (Option String)
  | .null => some none
  | value => (text? value).map some

def field? (part : Json) (place : Nat) (name : String) : Option Json :=
  match part with
  | .object members => members.lookup name
  | .list items => items[place]?
  | _ => none

def readSource (part : Json) : Option SourceSettings := do
  let endpointUrl ← (field? part 0 "endpoint_url").bind text?
  let requestTimeoutSecs ← (field? part 1 "request_timeout_secs").bind natural?
  return ⟨endpointUrl, requestTimeoutSecs⟩

def readRefresh (part : Json) : Option RefreshSettings := do
  let intervalMs ← (field? part 0 "interval_ms").bind natural?
  let refetchOnReconnect ← (field? part 1 "refetch_on_reconnect").bind flag?
  return ⟨intervalMs, refetchOnReconnect⟩

def readDisplay (part : Json) : Option DisplaySettings := do
  let showStderr ← (field? part 0 "show_stderr").bind flag?
  let sortBy ← (field? part 1 "sort_by").bind text?
  let descending ← (field? part 2 "descending").bind flag?
  return ⟨showStderr, sortBy, descending⟩

def readServer (part : Json) : Option ServerSettings := do
  let bindAddr ← (field? part 0 "bind_addr").bind text?
  return ⟨bindAddr⟩

def readObservability (part : Json) : Option ObservabilitySettings := do
  let logLevel ← (field? part 0 "log_level").bind text?
  let logFormat ← (field? part 1 "log_format").bind text?
  return ⟨logLevel, logFormat⟩

def readReplicaSet (part : Json) : Option (Option String) :=
  match part, field? part 1 "replica_set" with
  | _, some value => optionalText? value
  | .object _, none => some none
  | _, none => none

def readDatabase (part : Json) : Option DatabaseSettings := do
  let name ← (field? part 0 "name").bind text?
  let replicaSet ← readReplicaSet part
  let replicaHost ← (field? part 2 "replica_host").bind text?
  return ⟨name, replicaSet, replicaHost⟩

def ofLayer? (layer : Layer) : Option Settings := do
  let source ← (layer.lookup "source").bind readSource
  let refresh ← (layer.lookup "refresh").bind readRefresh
  let display ← (layer.lookup "display").bind readDisplay
  let server ← (layer.lookup "server").bind readServer
  let observability ← (layer.lookup "observability").bind readObservability
  let database ← (layer.lookup "database").bind readDatabase
  return ⟨source, refresh, display, server, observability, database⟩

def toLayer (s : Settings) : Layer := membersOf (some s.toJson)

end Leaderboard.Settings
