import Leaderboard.Dataset.Shape

set_option autoImplicit false

namespace Leaderboard

inductive RecordError
  | notObject (found : Json)
  | qos (mismatch : Mismatch)
  | metadata (mismatch : Mismatch)
  | metrics (found : Json)
  | sample (key : String) (mismatch : Mismatch)

def RecordError.message : RecordError → String
  | notObject found => (Mismatch.wrongType found "a map").message
  | qos mismatch => "invalid `qos`: " ++ mismatch.message
  | metadata mismatch => "invalid `metadata`: " ++ mismatch.message
  | metrics found =>
    "invalid `metrics`: expected an object, found " ++ found.canonical.compact
  | sample key mismatch => "invalid `" ++ key ++ "` sample: " ++ mismatch.message

namespace NodeRecord

def readPart {α : Type} (read : Json → Except Mismatch α) (wrap : Mismatch → RecordError) :
    Option Json → Except RecordError (Option α)
  | none | some .null => .ok none
  | some value =>
    match read value with
    | .ok part => .ok (some part)
    | .error mismatch => .error (wrap mismatch)

def isPartKey (key : String) : Bool := key == "qos" || key == "metadata" || key == "metrics"

def sampleSource (fields : SortedMap String Json) :
    Except RecordError (List (String × Json)) :=
  match fields.find? "metrics" with
  | some (.object nested) => .ok (Json.memberMap nested).entries
  | some .null => .ok []
  | some other => .error (.metrics other)
  | none => .ok (fields.filter (fun key _ => !isPartKey key)).entries

def readSamples : List (String × Json) → SortedMap Task Sample →
    Except RecordError (SortedMap Task Sample)
  | [], samples => .ok samples
  | (key, value) :: rest, samples =>
    match Task.ofName? key with
    | none => readSamples rest samples
    | some task =>
      if value.isNull then readSamples rest samples
      else
        match Sample.ofJson value with
        | .ok sample => readSamples rest (samples.insert task sample)
        | .error mismatch => .error (.sample key mismatch)

def ofFields (fields : SortedMap String Json) : Except RecordError NodeRecord := do
  let qos ← readPart Qos.ofJson .qos (fields.find? "qos")
  let metadata ← readPart NodeMetadata.ofJson .metadata (fields.find? "metadata")
  let source ← sampleSource fields
  let samples ← readSamples source .empty
  return ⟨samples, qos, metadata⟩

def ofJson : Json → Except RecordError NodeRecord
  | .object members => ofFields (Json.memberMap members)
  | other => .error (.notObject other)

end NodeRecord

end Leaderboard
