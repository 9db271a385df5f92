import Leaderboard.Json.Basic
import Leaderboard.Task

set_option autoImplicit false

namespace Leaderboard

abbrev NodeId := String

structure Sample where
  mean : Float
  stderr : Float
deriving DecidableEq

structure Qos where
  responseTime : Float
  errorRate : Float
deriving DecidableEq

structure NodeMetadata where
  service : Option String
  lastSeenHeight : Option UInt64
  lastSeenTime : Option String
deriving DecidableEq

structure NodeRecord where
  samples : SortedMap Task Sample
  qos : Option Qos
  metadata : Option NodeMetadata
deriving DecidableEq

abbrev Dataset := SortedMap NodeId NodeRecord

namespace Sample

def toJson (s : Sample) : Json := .object [("mean", .real s.mean), ("stderr", .real s.stderr)]

end Sample

namespace Qos

def toJson (q : Qos) : Json :=
  .object [("response_time", .real q.responseTime), ("error_rate", .real q.errorRate)]

end Qos

namespace NodeMetadata

def none : NodeMetadata := ⟨.none, .none, .none⟩

def toJson (m : NodeMetadata) : Json :=
  .object (
    (m.service.map (fun s => ("service", Json.text s))).toList ++
    (m.lastSeenHeight.map (fun h => ("last_seen_height", Json.nat h.toNat))).toList ++
    (m.lastSeenTime.map (fun t => ("last_seen_time", Json.text t))).toList)

end NodeMetadata

namespace NodeRecord

def empty : NodeRecord := ⟨.empty, none, none⟩

def withSample (r : NodeRecord) (task : Task) (sample : Sample) : NodeRecord :=
  { r with samples := r.samples.insert task sample }

def withQos (r : NodeRecord) (qos : Qos) : NodeRecord := { r with qos := some qos }

def sample? (r : NodeRecord) (task : Task) : Option Sample := r.samples.find? task

def toJson (r : NodeRecord) : Json :=
  .object (
    ("metrics", .object (r.samples.entries.map (fun e => (e.1.name, e.2.toJson)))) ::
    (r.qos.map (fun q => ("qos", q.toJson))).toList ++
    (r.metadata.map (fun m => ("metadata", m.toJson))).toList)

end NodeRecord

namespace Dataset

def toJson (d : Dataset) : Json := .object (d.entries.map (fun e => (e.1, e.2.toJson)))

end Dataset

end Leaderboard
