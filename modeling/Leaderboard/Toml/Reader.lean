import Leaderboard.Toml.Number
import Leaderboard.Toml.Quoted
import Leaderboard.Toml.Table

set_option autoImplicit false

namespace Leaderboard.Toml

-- The first argument tells whether a comment has begun.
def skipFiller : Bool → List Char → Option (List Char)
  | _, [] => some []
  | true, c :: rest =>
    if c == '\n' then skipFiller false rest
    else if isPlainChar c then skipFiller true rest
    else none
  | false, c :: rest =>
    if c == '#' then skipFiller true rest
    else if isGap c || c == '\n' then skipFiller false rest
    else some (c :: rest)

def isBareChar (c : Char) : Bool := c.isAlphanum || c == '_' || c == '-'

def readPart? (cs : List Char) : Option (String × List Char) :=
  match cs with
  | '"' :: rest =>
    (readBasic false rest.length.succ rest).map (fun (text, more) => (String.ofList text, more))
  | '\'' :: rest => (readLiteral false rest).map (fun (text, more) => (String.ofList text, more))
  | _ =>
    let part := cs.takeWhile isBareChar
    if part.isEmpty then none else some (String.ofList part, cs.dropWhile isBareChar)

def readName : Nat → List Char → Option (List String × List Char)
  | 0, _ => none
  | fuel + 1, cs => do
    let (part, rest) ← readPart? (skipGap cs)
    match skipGap rest with
    | '.' :: more =>
      let (parts, after) ← readName fuel more
      return (part :: parts, after)
    | after => return ([part], after)

def scalar? (word : List Char) : Option Json :=
  if word == "true".toList then some (.boolean true)
  else if word == "false".toList then some (.boolean false)
  else
    match integer? word with
    | some n => some (.integer n)
    | none => (real? word).map .real

def isWordChar (c : Char) : Bool := isBareChar c || c == '+' || c == '.'

mutual

def readValue : Nat → List Char → Option (Json × List Char)
  | 0, _ => none
  | fuel + 1, cs =>
    match cs with
    | '[' :: rest => (readItems fuel rest).map (fun (items, more) => (.list items, more))
    | '\x7b' :: rest =>
      match skipGap rest with
      | '\x7d' :: more => some (.object [], more)
      | members => (readMembers fuel [] members).map (fun (entries, more) =>
          (.object (membersOf entries), more))
    | '"' :: _ | '\'' :: _ => (readQuoted? cs).map (fun (text, more) => (.text text, more))
    | _ =>
      (scalar? (cs.takeWhile isWordChar)).map (fun value => (value, cs.dropWhile isWordChar))

def readItems : Nat → List Char → Option (List Json × List Char)
  | 0, _ => none
  | fuel + 1, cs => do
    match ← skipFiller false cs with
    | ']' :: rest => return ([], rest)
    | itemText =>
      let (item, more) ← readValue fuel itemText
      match ← skipFiller false more with
      | ',' :: rest =>
        let (items, after) ← readItems fuel rest
        return (item :: items, after)
      | ']' :: rest => return ([item], rest)
      | _ => none

def readMembers : Nat → Entries → List Char → Option (Entries × List Char)
  | 0, _, _ => none
  | fuel + 1, entries, cs => do
    let (name, afterName) ← readName (cs.length + 1) cs
    match afterName with
    | '=' :: valueText =>
      let (value, more) ← readValue fuel (skipGap valueText)
      let entries ← entries.define value name
      match skipGap more with
      | ',' :: rest => readMembers fuel entries rest
      | '\x7d' :: rest => return (entries, rest)
      | _ => none
    | _ => none

end

def endOfLine? (cs : List Char) : Option (List Char) :=
  match skipGap cs with
  | [] => some []
  | c :: rest => if c == '\n' || c == '#' then some (c :: rest) else none

-- The path leads to the table that was opened last.
def readStatements : Nat → List String → Entries → List Char → Option Entries
  | 0, _, _, _ => none
  | fuel + 1, path, entries, cs => do
    match ← skipFiller false cs with
    | [] => return entries
    | '[' :: '[' :: rest =>
      let (name, after) ← readName (rest.length + 1) rest
      match after with
      | ']' :: ']' :: more =>
        readStatements fuel name (← entries.openItem name) (← endOfLine? more)
      | _ => none
    | '[' :: rest =>
      let (name, after) ← readName (rest.length + 1) rest
      match after with
      | ']' :: more =>
        readStatements fuel name (← entries.openTable name) (← endOfLine? more)
      | _ => none
    | other =>
      let (name, after) ← readName (other.length + 1) other
      match after with
      | '=' :: valueText =>
        let (value, more) ← readValue (valueText.length + 1) (skipGap valueText)
        readStatements fuel path (← entries.within (Entries.define value name) path)
          (← endOfLine? more)
      | _ => none

def unifyBreaks : List Char → List Char
  | '\r' :: '\n' :: rest => '\n' :: unifyBreaks rest
  | c :: rest => c :: unifyBreaks rest
  | [] => []

def read? (text : String) : Option Json :=
  let cs := unifyBreaks text.toList
  (readStatements (cs.length + 1) [] [] cs).map (fun entries => .object (membersOf entries))

end Leaderboard.Toml
