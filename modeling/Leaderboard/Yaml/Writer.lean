import Leaderboard.Json.Basic
import Leaderboard.Decimal.Layout
import Leaderboard.Yaml.Scalar

set_option autoImplicit false

namespace Leaderboard.Yaml

def numberLayout : Decimal.Layout where
  positional := fun weight => -5 ≤ weight && weight < 16
  whole := ".0"
  exponentSign := ""
  notANumber := ".nan"
  infinite := ".inf"

def isBreak (c : Char) : Bool :=
  c == '\n' || c == '\r' || c.toNat == 0x85 || c.toNat == 0x2028 || c.toNat == 0x2029

def isPrintable (c : Char) : Bool :=
  let n := c.toNat
  n == 0x0A || (0x20 ≤ n && n ≤ 0x7E) || (0xA0 ≤ n && n ≤ 0xD7FF) ||
    (0xE000 ≤ n && n ≤ 0xFFFD && n != 0xFEFF) || 0x10000 ≤ n

def isLeadingIndicator (c : Char) : Bool :=
  "#,[]\x7b\x7d&*!|>'\"%@`".toList.contains c

def isSpaceOrEnd : List Char → Bool
  | [] => true
  | c :: _ => c == ' ' || c == '\t' || isBreak c

def breaksPlain (before : Char) : List Char → Bool
  | [] => false
  | c :: rest =>
    (c == ':' && isSpaceOrEnd rest) ||
    (c == '#' && (before == ' ' || before == '\t' || isBreak before)) ||
    breaksPlain c rest

def hasIndicators (cs : List Char) : Bool :=
  match cs with
  | [] => false
  | c :: rest =>
    isLeadingIndicator c ||
    ((c == '?' || c == ':' || c == '-') && isSpaceOrEnd rest) ||
    cs.take 3 == ['-', '-', '-'] || cs.take 3 == ['.', '.', '.'] ||
    breaksPlain c rest

def hasAdjacent (p q : Char → Bool) : List Char → Bool
  | a :: b :: rest => (p a && q b) || hasAdjacent p q (b :: rest)
  | _ => false

inductive Style
  | plain
  | single
  | literal
  | double
deriving Repr, DecidableEq

def styleOf (text : String) : Style :=
  let cs := text.toList
  let isSpace (c : Char) : Bool := c == ' '
  let special := cs.any (fun c => !isPrintable c && !isBreak c)
  let spaceBreak := hasAdjacent isSpace isBreak cs
  let breakSpace := hasAdjacent isBreak isSpace cs
  let anyBreak := cs.any isBreak
  let edge (c : Option Char) : Bool := c.any (fun c => isSpace c || isBreak c)
  let plainHolds := !edge cs.head? && !edge cs.getLast? && !anyBreak && !special &&
    !hasIndicators cs
  let singleHolds := !spaceBreak && !breakSpace && !special
  let blockHolds := !cs.getLast?.any isSpace && !spaceBreak && !special
  if cs.contains '\n' then
    if blockHolds then .literal else .double
  else if !needsQuotes text && plainHolds then .plain
  else if singleHolds then .single
  else .double

def spaces (n : Nat) : String := String.ofList (List.replicate n ' ')

-- A line break stays and the next line is indented.
def singleChars (indent : Nat) : Bool → List Char → String
  | afterBreak, [] => if afterBreak then spaces indent else ""
  | afterBreak, c :: rest =>
    if c != ' ' && isBreak c then String.ofList [c] ++ singleChars indent true rest
    else if c == ' ' then " " ++ singleChars indent afterBreak rest
    else
      (if afterBreak then spaces indent else "") ++
      (if c == '\'' then "''" else String.ofList [c]) ++ singleChars indent false rest

def hexDigits (width n : Nat) : String :=
  let digits := (Nat.toDigits 16 n).map Char.toUpper
  String.ofList (List.replicate (width - digits.length) '0' ++ digits)

def doubleChar (c : Char) : String :=
  if c == '"' then "\\\""
  else if c == '\\' then "\\\\"
  else if isPrintable c && !isBreak c then String.ofList [c]
  else
    match c.toNat with
    | 0 => "\\0"
    | 7 => "\\a"
    | 8 => "\\b"
    | 9 => "\\t"
    | 10 => "\\n"
    | 11 => "\\v"
    | 12 => "\\f"
    | 13 => "\\r"
    | 0x1B => "\\e"
    | 0x85 => "\\N"
    | 0x2028 => "\\L"
    | 0x2029 => "\\P"
    | n =>
      if n ≤ 0xFF then "\\x" ++ hexDigits 2 n
      else if n ≤ 0xFFFF then "\\u" ++ hexDigits 4 n
      else "\\U" ++ hexDigits 8 n

def chomping (cs : List Char) : String :=
  match cs.reverse with
  | last :: rest =>
    if !isBreak last then "-"
    else
      match rest with
      | [] => "+"
      | before :: _ => if isBreak before then "+" else ""
  | [] => "-"

-- A block that begins with a space or a break has to state its indentation.
def indentationHint (cs : List Char) : String :=
  match cs with
  | c :: _ => if c == ' ' || isBreak c then "2" else ""
  | [] => ""

def literalChars (indent : Nat) : Bool → List Char → String
  | _, [] => ""
  | atStart, c :: rest =>
    if isBreak c then String.ofList [c] ++ literalChars indent true rest
    else (if atStart then spaces indent else "") ++ String.ofList [c] ++
      literalChars indent false rest

def textScalar (indent : Nat) (text : String) : String :=
  let cs := text.toList
  match styleOf text with
  | .plain => text
  | .single => "'" ++ singleChars indent false cs ++ "'"
  | .double => "\"" ++ String.join (cs.map doubleChar) ++ "\""
  | .literal =>
    "|" ++ indentationHint cs ++ chomping cs ++ "\n" ++ literalChars indent true cs

def closeLine (scalar : String) : String := if scalar.endsWith "\n" then scalar else scalar ++ "\n"

def inlineScalar (indent : Nat) : Json → String
  | .null => "null"
  | .boolean b => toString b
  | .integer n => toString n
  | .real x => numberLayout.render x
  | .text s => textScalar indent s
  | .list _ => "[]"
  | .object _ => "\x7b\x7d"

mutual

def memberValue (indent : Nat) : Json → String
  | .list (item :: rest) => "\n" ++ blockItems indent (item :: rest)
  | .object (member :: rest) => "\n" ++ blockMembers (indent + 2) (member :: rest)
  | .list [] => " []\n"
  | .object [] => " \x7b\x7d\n"
  | .null => " null\n"
  | .boolean b => " " ++ toString b ++ "\n"
  | .integer n => " " ++ toString n ++ "\n"
  | .real x => " " ++ numberLayout.render x ++ "\n"
  | .text s => " " ++ closeLine (textScalar (indent + 2) s)

def itemValue (indent : Nat) : Json → String
  | .list (item :: rest) => itemValue (indent + 2) item |> fun first =>
    "- " ++ first ++ blockItems (indent + 2) rest
  | .object ((name, value) :: rest) =>
    textScalar 0 name ++ ":" ++ memberValue (indent + 2) value ++ blockMembers (indent + 2) rest
  | .list [] => "[]\n"
  | .object [] => "\x7b\x7d\n"
  | .null => "null\n"
  | .boolean b => toString b ++ "\n"
  | .integer n => toString n ++ "\n"
  | .real x => numberLayout.render x ++ "\n"
  | .text s => closeLine (textScalar (indent + 2) s)

def blockItems (indent : Nat) : List Json → String
  | [] => ""
  | item :: rest => spaces indent ++ "- " ++ itemValue indent item ++ blockItems indent rest

def blockMembers (indent : Nat) : List (String × Json) → String
  | [] => ""
  | (name, value) :: rest =>
    spaces indent ++ textScalar 0 name ++ ":" ++ memberValue indent value ++
      blockMembers indent rest

end

def document : Json → String
  | .object (member :: rest) => blockMembers 0 (member :: rest)
  | .list (item :: rest) => blockItems 0 (item :: rest)
  | other => closeLine (inlineScalar 2 other)

end Leaderboard.Yaml
