import Leaderboard.Yaml.BlockText
import Leaderboard.Yaml.Flow

set_option autoImplicit false

namespace Leaderboard.Yaml

def readKey? (line : Line) : Option (String × Line) :=
  match readQuoted? ⟨line, []⟩ with
  | some (name, after) =>
    match skipGap after.line with
    | ':' :: rest => if atGap rest then some (name, rest) else none
    | _ => none
  | none =>
    if !startsPlain false line then none
    else
      match plainLine false line with
      | (part, ':' :: rest) => (keyName? (String.ofList part)).map (fun name => (name, rest))
      | _ => none

def hasKey (line : Line) : Bool :=
  (readKey? line).isSome ||
    (startsPlain false line && (plainLine false line).2.head? == some ':')

-- What goes on below is indented by at least `least`.
def readInline (fuel least : Nat) (c : Cursor) : Option (Json × List Line) :=
  match BlockHeader.read? c.line with
  | some header =>
    let (text, below) := readBlock header least c.below
    some (.text text, below)
  | none =>
    match c.line with
    | '[' :: _ | '\x7b' :: _ =>
      match readFlow fuel c with
      | some (value, after) => after.finish?.map (fun below => (value, below))
      | none => none
    | '\'' :: _ | '"' :: _ =>
      match readQuoted? c with
      | some (text, after) => after.finish?.map (fun below => (.text text, below))
      | none => none
    | _ =>
      match plainText? least c with
      | some (text, below) => (resolve? text).map (fun value => (value, below))
      | none => none

structure NextLine where
  indent : Nat
  body : Line
  below : List Line

def nextLine? (lines : List Line) : Option NextLine :=
  match skipIdle lines with
  | [] => none
  | line :: below =>
    if isMarker line then none
    else some ⟨indentOf line, line.drop (indentOf line), below⟩

mutual

-- The value begins in `column`; what belongs to it is indented by at least `least`.
def readNode : Nat → Nat → Nat → Cursor → Option (Json × List Line)
  | 0, _, _, _ => none
  | fuel + 1, column, least, c =>
    if c.line.head? == some '\t' then none
    else if isDash c.line then
      (readItems fuel column c).map (fun (items, below) => (.list items, below))
    else if hasKey c.line then
      match readEntries fuel column c with
      | some (members, below) => (objectOf? members).map (fun value => (value, below))
      | none => none
    else readInline fuel least c

-- Items may stand in the column of their key.
def readBelow : Nat → Nat → Bool → List Line → Option (Json × List Line)
  | 0, _, _, _ => none
  | fuel + 1, column, underKey, lines =>
    match nextLine? lines with
    | none => some (.null, lines)
    | some next =>
      if column < next.indent || (underKey && next.indent == column && isDash next.body) then
        readNode fuel next.indent (column + 1) ⟨next.body, next.below⟩
      else some (.null, lines)

def readEntryValue : Nat → Nat → Cursor → Option (Json × List Line)
  | 0, _, _ => none
  | fuel + 1, column, c =>
    if isIdle c.line then readBelow fuel column true c.below
    else readInline fuel (column + 1) ⟨skipGap c.line, c.below⟩

def readEntries : Nat → Nat → Cursor → Option (List (String × Json) × List Line)
  | 0, _, _ => none
  | fuel + 1, column, c =>
    match readKey? c.line with
    | none => none
    | some (name, rest) =>
      match readEntryValue fuel column ⟨rest, c.below⟩ with
      | none => none
      | some (value, lines) =>
        match nextLine? lines with
        | none => some ([(name, value)], lines)
        | some next =>
          if next.indent < column then some ([(name, value)], lines)
          else if next.indent == column then
            (readEntries fuel column ⟨next.body, next.below⟩).map (fun (members, below) =>
              ((name, value) :: members, below))
          else none

def readItems : Nat → Nat → Cursor → Option (List Json × List Line)
  | 0, _, _ => none
  | fuel + 1, column, c =>
    let rest := c.line.drop 1
    let body := skipGap rest
    let read :=
      if isIdle rest then readBelow fuel column false c.below
      else readNode fuel (column + (c.line.length - body.length)) (column + 1) ⟨body, c.below⟩
    match read with
    | none => none
    | some (value, lines) =>
      match nextLine? lines with
      | none => some ([value], lines)
      | some next =>
        if next.indent < column || (next.indent == column && !isDash next.body) then
          some ([value], lines)
        else if next.indent == column then
          (readItems fuel column ⟨next.body, next.below⟩).map (fun (items, below) =>
            (value :: items, below))
        else none

end

-- Each character begins three nested values at most.
def fuelFor (lines : List Line) : Nat := 3 * lines.foldl (fun n line => n + line.length + 1) 0 + 8

def isDirective (line : Line) : Bool := line.head? == some '%'

def contentStart (lines : List Line) : Bool × Cursor :=
  match skipIdle (lines.dropWhile (fun line => isIdle line || isDirective line)) with
  | [] => (false, ⟨[], []⟩)
  | line :: below =>
    if line.take 3 == ['-', '-', '-'] && atGap (line.drop 3) then
      let rest := line.drop 3
      if isIdle rest then (true, ⟨[], below⟩) else (true, ⟨skipGap rest, below⟩)
    else (false, ⟨[], line :: below⟩)

def readRoot (lines : List Line) : Option (Json × List Line) :=
  let fuel := fuelFor lines
  let (_, start) := contentStart lines
  if start.line.isEmpty then
    match nextLine? start.below with
    | none => some (.null, start.below)
    | some next => readNode fuel next.indent 0 ⟨next.body, next.below⟩
  else readInline fuel 0 start

def holdsNone (lines : List Line) : Bool :=
  let (announced, start) := contentStart lines
  !announced && start.line.isEmpty && start.below.isEmpty

def endsCleanly (lines : List Line) : Bool :=
  lines.all (fun line => isIdle line || line.take 3 == ['.', '.', '.'])

def contentOf (text : String) : List Char := text.toList.takeWhile (· != '\x00')

-- Anchors, tags and keys that are no single text are not read.
def read? (text : String) : Option (Option Json) :=
  let lines := linesOf (contentOf text)
  if holdsNone lines then some none
  else
    match readRoot lines with
    | some (value, rest) => if endsCleanly rest then some (some value) else none
    | none => none

end Leaderboard.Yaml
