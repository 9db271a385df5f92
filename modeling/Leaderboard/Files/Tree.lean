import Leaderboard.Files.Basic
import Leaderboard.Text.Split

set_option autoImplicit false

namespace Leaderboard

abbrev Location := List String

-- A directory exists if something is below it or it is the working one.
structure FileTree where
  working : Location
  files : List (Location × List UInt8)
deriving Repr, DecidableEq

namespace FileTree

def content? (t : FileTree) (place : Location) : Option (List UInt8) :=
  (t.files.find? (fun entry => entry.1 == place)).map (·.2)

def isDirectory (t : FileTree) (place : Location) : Bool :=
  place.isPrefixOf t.working ||
    t.files.any (fun entry => place.isPrefixOf entry.1 && place != entry.1)

def longestName : Nat := 255

def enter (place : Location) (name : String) : Location :=
  if name == "" || name == "." then place
  else if name == ".." then place.dropLast
  else place ++ [name]

def follow (t : FileTree) : Location → List String → Except ReadError Location
  | place, [] => .ok place
  | place, name :: rest =>
    if !t.isDirectory place then .error .notDirectory
    else if longestName < name.utf8ByteSize then .error .nameTooLong
    else
      let next := enter place name
      if t.isDirectory next || (t.content? next).isSome then t.follow next rest
      else .error .missing

def startOf (t : FileTree) (path : List Char) : Location × List String :=
  let names := (Text.splitAll '/' path).map String.ofList
  (if path.head? == some '/' then [] else t.working, names)

def read (t : FileTree) (path : String) : Except ReadError (List UInt8) :=
  if path.isEmpty then .error .missing
  else if path.toList.contains (Char.ofNat 0) then .error .nulInName
  else
    let (start, names) := t.startOf path.toList
    match t.follow start names with
    | .error e => .error e
    | .ok found =>
      match t.content? found with
      | some bytes => .ok bytes
      | none => .error .isDirectory

def view (t : FileTree) : Files := ⟨t.read⟩

def put (t : FileTree) (place : Location) (bytes : List UInt8) : FileTree :=
  { t with files := t.files.filter (fun entry => entry.1 != place) ++ [(place, bytes)] }

def remove (t : FileTree) (place : Location) : FileTree :=
  { t with files := t.files.filter (fun entry => entry.1 != place) }

end FileTree

end Leaderboard
