import Leaderboard.Dataset.Record
import Leaderboard.Json.Reader
import Leaderboard.Text.Utf8
import Leaderboard.Failure

set_option autoImplicit false

namespace Leaderboard

inductive PayloadError
  | malformed
  | notObject (found : Json)
  | record (error : RecordError)

-- Which rule of the syntax is broken, and where, is left out of the message.
def PayloadError.message : PayloadError → String
  | malformed => "malformed JSON"
  | notObject found => (Mismatch.wrongType found "a map").message
  | record error => error.message

namespace Dataset

-- The inside of an array is not looked at.
def readOther (cs : List Char) : Option Json :=
  match cs with
  | '[' :: _ => some (.list [])
  | '"' :: rest => (Json.readText rest).map (fun (s, _) => .text s)
  | scalar => (Json.readScalar scalar).map (·.1)

-- A record nests one level inside the payload.
def readRecord (cs : List Char) : Except PayloadError (NodeRecord × List Char) :=
  match Json.skipSpace cs with
  | '\x7b' :: rest =>
    match Json.readPart (Json.maxDepth - 1) ('\x7b' :: rest) with
    | none => .error .malformed
    | some (value, more) =>
      match NodeRecord.ofJson value with
      | .ok record => .ok (record, more)
      | .error error => .error (.record error)
  | other =>
    match readOther other with
    | some found => .error (.record (.notObject found))
    | none => .error .malformed

def readMembers : Nat → List Char → Dataset → Except PayloadError (Dataset × List Char)
  | 0, _, _ => .error .malformed
  | fuel + 1, cs, read =>
    match Json.readName cs with
    | none => .error .malformed
    | some (node, recordText) =>
      match readRecord recordText with
      | .error error => .error error
      | .ok (record, more) =>
        match Json.skipSpace more with
        | ',' :: rest => readMembers fuel rest (read.insert node record)
        | '\x7d' :: rest => .ok (read.insert node record, rest)
        | _ => .error .malformed

def readPayload (cs : List Char) : Except PayloadError (Dataset × List Char) :=
  match Json.skipSpace cs with
  | '\x7b' :: rest =>
    match Json.skipSpace rest with
    | '\x7d' :: more => .ok (SortedMap.empty, more)
    | members => readMembers (members.length + 1) members SortedMap.empty
  | other =>
    match readOther other with
    | some found => .error (.notObject found)
    | none => .error .malformed

def ofText (cs : List Char) : Except PayloadError Dataset := do
  let (dataset, rest) ← readPayload cs
  if (Json.skipSpace rest).isEmpty then return dataset else .error .malformed

-- Bytes that are no text make the payload malformed where they stand.
def parse (bytes : List UInt8) : Except Failure Dataset :=
  match ofText (Text.decodeStrict bytes) with
  | .ok dataset => .ok dataset
  | .error error => .error ⟨.parse, "invalid leaderboard payload: " ++ error.message⟩

end Dataset

end Leaderboard
