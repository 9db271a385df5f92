import Leaderboard.Json.Basic
import Leaderboard.Decimal.Layout
import Leaderboard.Text.Quoted

set_option autoImplicit false

namespace Leaderboard.Json

def numberLayout : Decimal.Layout where
  positional := fun weight => -5 ≤ weight && weight < 16
  whole := ".0"
  exponentSign := "+"
  notANumber := "null"
  infinite := "null"

def realText (x : Float) : String :=
  if Decimal.isFinite x then numberLayout.render x else "null"

def controlDigits (n : Nat) : List Char :=
  [(Nat.digitChar (n / 16)), (Nat.digitChar (n % 16))]

def escapedChar (c : Char) : List Char :=
  if c == '"' then ['\\', '"']
  else if c == '\\' then ['\\', '\\']
  else if c == '\n' then ['\\', 'n']
  else if c == '\r' then ['\\', 'r']
  else if c == '\t' then ['\\', 't']
  else if c.toNat == 8 then ['\\', 'b']
  else if c.toNat == 12 then ['\\', 'f']
  else if c.toNat < 0x20 then ['\\', 'u', '0', '0'] ++ controlDigits c.toNat
  else [c]

def writeText (s : String) : List Char := '"' :: s.toList.flatMap escapedChar ++ ['"']

def textLiteral (s : String) : String := String.ofList (writeText s)

mutual

def write : Json → List Char
  | .null => "null".toList
  | .boolean b => (toString b).toList
  | .integer n => (toString n).toList
  | .real x => (realText x).toList
  | .text s => writeText s
  | .list items => '[' :: writeItems items ++ [']']
  | .object members => '\x7b' :: writeMembers members ++ ['\x7d']

def writeItems : List Json → List Char
  | [] => []
  | [item] => write item
  | item :: next :: rest => write item ++ ',' :: writeItems (next :: rest)

def writeMembers : List (String × Json) → List Char
  | [] => []
  | [(name, value)] => writeText name ++ ':' :: write value
  | (name, value) :: next :: rest =>
    writeText name ++ ':' :: write value ++ ',' :: writeMembers (next :: rest)

end

def compact (j : Json) : String := String.ofList (write j)

def newLine (level : Nat) : List Char := '\n' :: List.replicate (2 * level) ' '

mutual

def writePretty (level : Nat) : Json → List Char
  | .list [] => ['[', ']']
  | .list items =>
    '[' :: writePrettyItems (level + 1) items ++ newLine level ++ [']']
  | .object [] => ['\x7b', '\x7d']
  | .object members =>
    '\x7b' :: writePrettyMembers (level + 1) members ++ newLine level ++ ['\x7d']
  | .null => write .null
  | .boolean b => write (.boolean b)
  | .integer n => write (.integer n)
  | .real x => write (.real x)
  | .text s => write (.text s)

def writePrettyItems (level : Nat) : List Json → List Char
  | [] => []
  | [item] => newLine level ++ writePretty level item
  | item :: next :: rest =>
    newLine level ++ writePretty level item ++ ',' :: writePrettyItems level (next :: rest)

def writePrettyMembers (level : Nat) : List (String × Json) → List Char
  | [] => []
  | [(name, value)] => newLine level ++ writeText name ++ [':', ' '] ++ writePretty level value
  | (name, value) :: next :: rest =>
    newLine level ++ writeText name ++ [':', ' '] ++ writePretty level value ++
      ',' :: writePrettyMembers level (next :: rest)

end

def pretty (j : Json) : String := String.ofList (writePretty 0 j)

end Leaderboard.Json
