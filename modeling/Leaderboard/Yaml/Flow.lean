import Leaderboard.Yaml.Plain
import Leaderboard.Yaml.Quoted
import Leaderboard.Yaml.Resolve

set_option autoImplicit false

namespace Leaderboard.Yaml

def skipFlow (line : Line) (below : List Line) : Cursor :=
  if isIdle line then
    match skipIdle below with
    | [] => ⟨[], []⟩
    | next :: more => ⟨skipGap next, more⟩
  else ⟨skipGap line, below⟩

def Cursor.skip (c : Cursor) : Cursor := skipFlow c.line c.below

def flowBelow : Line → List Line → List Line × Cursor
  | line, [] =>
    let (part, stop) := plainLine true (skipGap line)
    ([part], ⟨stop, []⟩)
  | line, next :: more =>
    let (part, stop) := plainLine true (skipGap line)
    if stop.isEmpty then
      let (parts, after) := flowBelow next more
      (part :: parts, after)
    else ([part], ⟨stop, next :: more⟩)

def flowPlain? (c : Cursor) : Option (String × Cursor) :=
  if !startsPlain true c.line then none
  else
    let (parts, after) := flowBelow c.line c.below
    some (String.ofList (trimGaps (foldLines parts)), after)

-- A key cannot be null, a truth value or a decimal number.
def keyName? (text : String) : Option String :=
  match resolve? text with
  | some (.text name) => some name
  | some (.integer n) => some (toString n)
  | _ => none

def flowKey? (c : Cursor) : Option (String × Cursor) :=
  match readQuoted? c with
  | some found => some found
  | none =>
    match flowPlain? c with
    | some (text, after) => (keyName? text).map (fun name => (name, after))
    | none => none

def hasRepeated : List String → Bool
  | [] => false
  | name :: rest => rest.contains name || hasRepeated rest

def objectOf? (members : List (String × Json)) : Option Json :=
  if hasRepeated (members.map (·.1)) then none else some (.object members)

mutual

def readFlow : Nat → Cursor → Option (Json × Cursor)
  | 0, _ => none
  | fuel + 1, c =>
    match c.line with
    | '[' :: rest => (readFlowItems fuel (skipFlow rest c.below)).map (fun (items, after) =>
        (.list items, after))
    | '\x7b' :: rest =>
      match readFlowMembers fuel (skipFlow rest c.below) with
      | some (members, after) => (objectOf? members).map (fun value => (value, after))
      | none => none
    | _ =>
      match readQuoted? c with
      | some (text, after) => some (.text text, after)
      | none =>
        match flowPlain? c with
        | some (text, after) => (resolve? text).map (fun value => (value, after))
        | none => none

def readFlowValue : Nat → Cursor → Option (Json × Cursor)
  | 0, _ => none
  | fuel + 1, c =>
    match c.line with
    | ':' :: rest =>
      let place := skipFlow rest c.below
      match place.line with
      | ',' :: _ | '\x7d' :: _ | ']' :: _ => some (.null, place)
      | _ => readFlow fuel place
    | _ => some (.null, c)

-- An item with a colon is an object of one member.
def readFlowItems : Nat → Cursor → Option (List Json × Cursor)
  | 0, _ => none
  | fuel + 1, c =>
    match c.line with
    | ']' :: rest => some ([], ⟨rest, c.below⟩)
    | _ =>
      match readFlow fuel c with
      | none => none
      | some (value, after) =>
        let place := after.skip
        let paired : Option (Json × Cursor) :=
          match place.line, value with
          | ':' :: _, .text name =>
            (readFlowValue fuel place).map (fun (v, later) =>
              (.object [(name, v)], later.skip))
          | ':' :: _, _ => none
          | _, _ => some (value, place)
        match paired with
        | none => none
        | some (item, next) =>
          match next.line with
          | ',' :: rest => (readFlowItems fuel (skipFlow rest next.below)).map
              (fun (items, later) => (item :: items, later))
          | ']' :: rest => some ([item], ⟨rest, next.below⟩)
          | _ => none

def readFlowMembers : Nat → Cursor → Option (List (String × Json) × Cursor)
  | 0, _ => none
  | fuel + 1, c =>
    match c.line with
    | '\x7d' :: rest => some ([], ⟨rest, c.below⟩)
    | _ =>
      match flowKey? c with
      | none => none
      | some (name, afterName) =>
        match readFlowValue fuel afterName.skip with
        | none => none
        | some (value, after) =>
          let next := after.skip
          match next.line with
          | ',' :: rest => (readFlowMembers fuel (skipFlow rest next.below)).map
              (fun (members, later) => ((name, value) :: members, later))
          | '\x7d' :: rest => some ([(name, value)], ⟨rest, next.below⟩)
          | _ => none

end

end Leaderboard.Yaml
