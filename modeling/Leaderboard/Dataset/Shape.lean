import Leaderboard.Dataset.Basic
import Leaderboard.Json.Writer

set_option autoImplicit false

namespace Leaderboard

inductive Mismatch
  | wrongType (found : Json) (expected : String)
  | negative (found : Int) (expected : String)
  | missing (field : String)
  | tooShort (length : Nat) (expected : String)
  | tooLong (length : Nat)

namespace Mismatch

def describe : Json → String
  | .null => "null"
  | .boolean b => "boolean `" ++ toString b ++ "`"
  | .integer n => "integer `" ++ toString n ++ "`"
  | .real x => "floating point `" ++ Json.realText x ++ "`"
  | .text s => "string " ++ Text.quoted s
  | .list _ => "sequence"
  | .object _ => "map"

def message : Mismatch → String
  | wrongType found expected => "invalid type: " ++ describe found ++ ", expected " ++ expected
  | negative found expected =>
    "invalid value: integer `" ++ toString found ++ "`, expected " ++ expected
  | missing field => "missing field `" ++ field ++ "`"
  | tooShort length expected => "invalid length " ++ toString length ++ ", expected " ++ expected
  | tooLong length =>
    "invalid length " ++ toString length ++ ", expected fewer elements in array"

end Mismatch

def readReal : Json → Except Mismatch Float
  | .real x => .ok x
  | .integer n => .ok (Json.realOfInt n)
  | other => .error (.wrongType other "f64")

def readHeight : Json → Except Mismatch UInt64
  | .integer n => if n < 0 then .error (.negative n "u64") else .ok (UInt64.ofNat n.toNat)
  | other => .error (.wrongType other "u64")

def readString : Json → Except Mismatch String
  | .text s => .ok s
  | other => .error (.wrongType other "a string")

def readOptional {α : Type} (read : Json → Except Mismatch α) : Json → Except Mismatch (Option α)
  | .null => .ok none
  | value => (read value).map some

def readField {α : Type} (read : Json → Except Mismatch α) (fields : SortedMap String Json)
    (name : String) : Except Mismatch (Option α) :=
  match fields.find? name with
  | some value => (read value).map some
  | none => .ok none

def required {α : Type} (name : String) : Option α → Except Mismatch α
  | some value => .ok value
  | none => .error (.missing name)

def readPair (structName : String) : List Json → Except Mismatch (Float × Float)
  | [] => .error (.tooShort 0 (structName ++ " with 2 elements"))
  | first :: others => do
    let a ← readReal first
    match others with
    | [] => .error (.tooShort 1 (structName ++ " with 2 elements"))
    | second :: rest => do
      let b ← readReal second
      if rest.isEmpty then return (a, b) else .error (.tooLong (rest.length + 2))

namespace Sample

def structName : String := "struct MetricSample"

-- Fields are read in the order of their names, and missed in their own order.
def ofFields (fields : SortedMap String Json) : Except Mismatch Sample := do
  let mean ← readField readReal fields "mean"
  let stderr ← readField readReal fields "stderr"
  return ⟨← required "mean" mean, ← required "stderr" stderr⟩

def ofJson : Json → Except Mismatch Sample
  | .object members => ofFields (Json.memberMap members)
  | .list items => (readPair structName items).map (fun (mean, stderr) => ⟨mean, stderr⟩)
  | other => .error (.wrongType other structName)

end Sample

namespace Qos

def structName : String := "struct Qos"

def ofFields (fields : SortedMap String Json) : Except Mismatch Qos := do
  let errorRate ← readField readReal fields "error_rate"
  let responseTime ← readField readReal fields "response_time"
  return ⟨← required "response_time" responseTime, ← required "error_rate" errorRate⟩

def ofJson : Json → Except Mismatch Qos
  | .object members => ofFields (Json.memberMap members)
  | .list items => (readPair structName items).map (fun (time, rate) => ⟨time, rate⟩)
  | other => .error (.wrongType other structName)

end Qos

namespace NodeMetadata

def structName : String := "struct NodeMetadata"

def ofFields (fields : SortedMap String Json) : Except Mismatch NodeMetadata := do
  let height ← readField (readOptional readHeight) fields "last_seen_height"
  let time ← readField (readOptional readString) fields "last_seen_time"
  let service ← readField (readOptional readString) fields "service"
  return ⟨service.join, height.join, time.join⟩

def ofItems (items : List Json) : Except Mismatch NodeMetadata := do
  let service ← (items[0]?).mapM (readOptional readString)
  let height ← (items[1]?).mapM (readOptional readHeight)
  let time ← (items[2]?).mapM (readOptional readString)
  if items.length > 3 then .error (.tooLong items.length)
  else return ⟨service.join, height.join, time.join⟩

def ofJson : Json → Except Mismatch NodeMetadata
  | .object members => ofFields (Json.memberMap members)
  | .list items => ofItems items
  | other => .error (.wrongType other structName)

end NodeMetadata

end Leaderboard
