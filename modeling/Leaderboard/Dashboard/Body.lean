import Leaderboard.Json.Skipping
import Leaderboard.Theme.Basic

set_option autoImplicit false

namespace Leaderboard.Dashboard

inductive BodyError
  | malformed
  | misshapen
deriving Repr, DecidableEq

namespace Body

-- In bytes; a longer body is not read to its end.
def limit : Nat := 2097152

abbrev Read (α : Type) := Except BodyError (α × List Char)

def refuse {α : Type} (cs : List Char) : Except BodyError α :=
  match cs with
  | '[' :: _ => .error .misshapen
  | '\x7b' :: _ => .error .misshapen
  | '"' :: rest => .error (if (Json.readText rest).isSome then .misshapen else .malformed)
  | scalar => .error (if (Json.readScalar scalar).isSome then .misshapen else .malformed)

def orMalformed {α : Type} : Option α → Except BodyError α
  | some value => .ok value
  | none => .error .malformed

def readString (cs : List Char) : Read String :=
  match Json.skipSpace cs with
  | '"' :: rest => orMalformed (Json.readText rest)
  | other => refuse other

def expect (c : Char) (cs : List Char) : Except BodyError (List Char) :=
  match Json.skipSpace cs with
  | [] => .error .malformed
  | found :: rest => if found == c then .ok rest else .error .malformed

def themeOf (name : String) : Except BodyError Theme :=
  if name == "light" then .ok .light
  else if name == "dark" then .ok .dark
  else .error .misshapen

def readNull (cs : List Char) : Except BodyError (List Char) :=
  match Json.skipSpace cs with
  | 'n' :: rest => orMalformed (Json.readWord "ull" rest)
  | other => refuse other

def readTheme (cs : List Char) : Except BodyError (Option Theme × List Char) :=
  match Json.skipSpace cs with
  | 'n' :: rest => do return (none, ← orMalformed (Json.readWord "ull" rest))
  | '"' :: rest => do
    let (name, more) ← orMalformed (Json.readText rest)
    return (some (← themeOf name), more)
  | '\x7b' :: rest => do
    let (name, afterName) ← readString rest
    let theme ← themeOf name
    let value ← expect ':' afterName
    let more ← expect '\x7d' (← readNull value)
    return (some theme, more)
  | _ => .error .malformed

-- Only the named member is read, and only once. A comma stands before every member but the first.
def readMembers {α : Type} (name : String) (read : List Char → Read α) :
    Nat → Bool → Option α → List Char → Except BodyError (Option α)
  | 0, _, _, _ => .error .malformed
  | fuel + 1, first, found, cs =>
    match Json.skipSpace cs with
    | '\x7d' :: _ => .ok found
    | other => do
      let memberText ← if first then .ok other else expect ',' other
      match Json.skipSpace memberText with
      | '"' :: rest => do
        let (key, afterKey) ← orMalformed (Json.readText rest)
        if key == name then
          if found.isSome then .error .misshapen
          else do
            let (value, more) ← read (← expect ':' afterKey)
            readMembers name read fuel false (some value) more
        else do
          let more ← orMalformed (Json.skipValue (← expect ':' afterKey))
          readMembers name read fuel false found more
      | _ => .error .malformed

def readElement {α : Type} (read : List Char → Read α) (cs : List Char) :
    Except BodyError (Option α) :=
  match Json.skipSpace cs with
  | ']' :: _ => .ok none
  | other => do
    let (value, more) ← read other
    discard (expect ']' more)
    return some value

def readField {α : Type} (name : String) (read : List Char → Read α) (text : String) :
    Except BodyError (Option α) :=
  match Json.skipSpace text.toList with
  | '\x7b' :: rest => readMembers name read (rest.length + 1) true none rest
  | '[' :: rest => readElement read rest
  | other => refuse other

def filter (text : String) : Except BodyError String := do
  match ← readField "filter" readString text with
  | some filter => return filter
  | none => .error .misshapen

def theme (text : String) : Except BodyError (Option Theme) := do
  return (← readField "theme" readTheme text).join

end Body

end Leaderboard.Dashboard
