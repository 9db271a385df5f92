import Leaderboard.Files.Basic
import Leaderboard.Json.Reader
import Leaderboard.Settings.Layer
import Leaderboard.Text.Utf8
import Leaderboard.Toml.Reader
import Leaderboard.Yaml.Reader

set_option autoImplicit false

namespace Leaderboard.Settings

-- Files in ini, ron and json5 are left out. Which of several files with extensions a bare name
-- means is settled by the order given here.
inductive FileFormat
  | yaml
  | json
  | toml
deriving Repr, DecidableEq

namespace FileFormat

def extensions : FileFormat → List String
  | yaml => ["yaml", "yml"]
  | json => ["json"]
  | toml => ["toml"]

def all : List FileFormat := [yaml, json, toml]

def ofExtension? (ext : String) : Option FileFormat :=
  all.find? (fun format => format.extensions.contains ext)

def document? (format : FileFormat) (text : String) : Option Json :=
  match format with
  | yaml => (Yaml.read? text).map (fun document => document.getD (.object []))
  | json => Json.read? text.toList
  | toml => Toml.read? text

def layer? (format : FileFormat) (text : String) : Option Layer :=
  match format.document? text with
  | some (.object members) => some members
  | _ => none

end FileFormat

-- A point at the front counts for nothing.
def extensionOf (path : String) : String :=
  let name := ((Text.splitAll '/' path.toList).getLast?).getD []
  match Text.splitOnce? '.' name.reverse with
  | some (back, front) => if front.isEmpty then "" else String.ofList back.reverse
  | none => ""

def withoutSlashes (path : String) : String :=
  String.ofList (path.toList.reverse.dropWhile (· == '/')).reverse

inductive FileFault
  | missing
  | unknownFormat
  | unreadable
  | malformed
deriving Repr, DecidableEq

def withExtensions (path : String) : List (String × FileFormat) :=
  FileFormat.all.flatMap (fun format =>
    format.extensions.map (fun ext => (withoutSlashes path ++ "." ++ ext, format)))

-- The file of that very name, or else the first that has an extension added.
def findFile (files : Files) (path : String) : Except FileFault (String × FileFormat) :=
  if files.isFile path then
    match FileFormat.ofExtension? (extensionOf path) with
    | some format => .ok (path, format)
    | none => .error .unknownFormat
  else
    match (withExtensions path).find? (fun candidate => files.isFile candidate.1) with
    | some found => .ok found
    | none => .error .missing

def dropByteOrderMark (text : String) : String :=
  match text.toList with
  | c :: rest => if c.toNat == 0xFEFF then String.ofList rest else text
  | [] => text

def fileText (files : Files) (path : String) : Except FileFault (String × FileFormat) := do
  let (name, format) ← findFile files path
  match files.read name with
  | .error _ => throw .unreadable
  | .ok bytes =>
    match Text.decode? bytes with
    | some text => return (dropByteOrderMark text, format)
    | none => throw .unreadable

def requiredLayer (files : Files) (path : String) : Except FileFault Layer := do
  let (text, format) ← fileText files path
  match format.layer? text with
  | some layer => return layer
  | none => throw .malformed

-- If its text can be read it has to make sense.
def optionalLayer (files : Files) (path : String) : Except FileFault Layer :=
  match fileText files path with
  | .error _ => .ok []
  | .ok (text, format) =>
    match format.layer? text with
    | some layer => .ok layer
    | none => .error .malformed

end Leaderboard.Settings
