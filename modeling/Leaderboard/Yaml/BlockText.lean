import Leaderboard.Decimal.Reading
import Leaderboard.Yaml.Line

set_option autoImplicit false

namespace Leaderboard.Yaml

inductive Chomping
  | strip
  | clip
  | keep
deriving Repr, DecidableEq

structure BlockHeader where
  folded : Bool
  chomping : Chomping
  indentation : Option Nat
deriving Repr, DecidableEq

namespace BlockHeader

def withMarks (h : BlockHeader) : Line → Option BlockHeader
  | [] => some h
  | c :: rest =>
    if c == '-' then { h with chomping := .strip }.withMarks rest
    else if c == '+' then { h with chomping := .keep }.withMarks rest
    else if '1' ≤ c && c ≤ '9' then
      { h with indentation := some (Decimal.digitValue c) }.withMarks rest
    else if isGap c && isIdle rest then some h
    else none

def read? : Line → Option BlockHeader
  | '|' :: marks => (⟨false, .clip, none⟩ : BlockHeader).withMarks marks
  | '>' :: marks => (⟨true, .clip, none⟩ : BlockHeader).withMarks marks
  | _ => none

end BlockHeader

def blockIndent (h : BlockHeader) (least : Nat) (lines : List Line) : Nat :=
  match h.indentation with
  | some n => (least - 1) + n
  | none =>
    match lines.dropWhile isEmptyLine with
    | first :: _ => max (indentOf first) (max least 1)
    | [] => max least 1

def outdent (indent : Nat) (line : Line) : Line := line.drop (min indent (indentOf line))

def insideBlock (indent : Nat) (line : Line) : Bool :=
  indent ≤ indentOf line || line.all (· == ' ')

def splitEnd (lines : List Line) : List Line × Nat :=
  let shown := (lines.reverse.dropWhile List.isEmpty).reverse
  (shown, lines.length - shown.length)

def isIndented : Line → Bool
  | [] => false
  | c :: _ => isGap c

def blockBreak (folded : Bool) (before after : Line) (n : Nat) : List Char :=
  if folded && !isIndented before && !isIndented after then foldedBreak n
  else List.replicate (n + 1) '\n'

def joinBlock (folded : Bool) (before : Line) : Nat → List Line → List Char
  | _, [] => []
  | n, line :: rest =>
    if line.isEmpty then joinBlock folded before (n + 1) rest
    else blockBreak folded before line n ++ line ++ joinBlock folded line 0 rest

def blockLines (folded : Bool) : List Line → List Char
  | [] => []
  | line :: rest =>
    if line.isEmpty then '\n' :: blockLines folded rest
    else line ++ joinBlock folded line 0 rest

def blockEnd (chomping : Chomping) (shown : List Line) (empty : Nat) : List Char :=
  match chomping with
  | .strip => []
  | .clip => if shown.isEmpty then [] else ['\n']
  | .keep => List.replicate (if shown.isEmpty then empty else empty + 1) '\n'

def readBlock (h : BlockHeader) (least : Nat) (lines : List Line) : String × List Line :=
  let indent := blockIndent h least lines
  let (shown, empty) := splitEnd ((lines.takeWhile (insideBlock indent)).map (outdent indent))
  (String.ofList (blockLines h.folded shown ++ blockEnd h.chomping shown empty),
    lines.dropWhile (insideBlock indent))

end Leaderboard.Yaml
