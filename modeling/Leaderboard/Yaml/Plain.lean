import Leaderboard.Yaml.Line

set_option autoImplicit false

namespace Leaderboard.Yaml

def isFlowMark (c : Char) : Bool := ",[]\x7b\x7d".toList.contains c

def isReserved (c : Char) : Bool := "#,[]\x7b\x7d&*!|>'\"%@`".toList.contains c

def endsMark (inFlow : Bool) : Line → Bool
  | [] => true
  | c :: _ => isGap c || (inFlow && isFlowMark c)

def startsPlain (inFlow : Bool) : Line → Bool
  | [] => false
  | c :: rest =>
    if c == '-' || c == '?' || c == ':' then !endsMark inFlow rest
    else !isReserved c && !isGap c

-- The first argument tells whether a gap stands before.
def plainPart (inFlow : Bool) : Bool → Line → Line × Line
  | _, [] => ([], [])
  | afterGap, c :: rest =>
    if (c == ':' && endsMark inFlow rest) || (c == '#' && afterGap) ||
        (inFlow && isFlowMark c) then ([], c :: rest)
    else
      let (part, stop) := plainPart inFlow (isGap c) rest
      (c :: part, stop)

def plainLine (inFlow : Bool) (line : Line) : Line × Line :=
  let (part, stop) := plainPart inFlow false line
  (trimGaps part, stop)

-- No line may hold a key.
def plainBelow (least : Nat) : List Line → Option (List Line × List Line)
  | [] => some ([], [])
  | line :: rest =>
    if isEmptyLine line then
      match plainBelow least rest with
      | none => none
      | some ([], _) => some ([], line :: rest)
      | some (parts, after) => some ([] :: parts, after)
    else if indentOf line < least || isMarker line || isIdle line then some ([], line :: rest)
    else
      let (part, stop) := plainLine false (skipGap line)
      match stop with
      | ':' :: _ => none
      | '#' :: _ => some ([part], rest)
      | _ => (plainBelow least rest).map (fun (parts, after) => (part :: parts, after))

def plainText? (least : Nat) (c : Cursor) : Option (String × List Line) :=
  if !startsPlain false c.line then none
  else
    let (part, stop) := plainLine false c.line
    match stop with
    | ':' :: _ => none
    | '#' :: _ => some (String.ofList part, c.below)
    | _ =>
      (plainBelow least c.below).map (fun (parts, after) =>
        (String.ofList (foldLines (part :: parts)), after))

end Leaderboard.Yaml
