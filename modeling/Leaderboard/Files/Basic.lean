set_option autoImplicit false

namespace Leaderboard

inductive ReadError
  | missing
  | isDirectory
  | notDirectory
  | denied
  | nameTooLong
  | nulInName
deriving Repr, DecidableEq

def ReadError.message : ReadError → String
  | missing => "No such file or directory (os error 2)"
  | isDirectory => "Is a directory (os error 21)"
  | notDirectory => "Not a directory (os error 20)"
  | denied => "Permission denied (os error 13)"
  | nameTooLong => "File name too long (os error 36)"
  | nulInName => "file name contained an unexpected NUL byte"

structure Files where
  read : String → Except ReadError (List UInt8)

namespace Files

def none : Files := ⟨fun _ => .error .missing⟩

def ofReads (reads : List (String × Except ReadError (List UInt8))) : Files :=
  ⟨fun path => (reads.lookup path).getD (.error .missing)⟩

def write (files : Files) (path : String) (content : List UInt8) : Files :=
  ⟨fun other => if other == path then .ok content else files.read other⟩

def isFile (files : Files) (path : String) : Bool :=
  match files.read path with
  | .ok _ | .error .denied => true
  | .error _ => false

def isPresent (files : Files) (path : String) : Bool :=
  match files.read path with
  | .ok _ | .error .isDirectory | .error .denied => true
  | .error _ => false

end Files

end Leaderboard
