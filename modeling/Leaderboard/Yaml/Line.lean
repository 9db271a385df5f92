import Leaderboard.Text.Split

set_option autoImplicit false

namespace Leaderboard.Yaml

abbrev Line := List Char

structure Cursor where
  line : Line
  below : List Line

def unifyBreaks : List Char → List Char
  | '\r' :: '\n' :: rest => '\n' :: unifyBreaks rest
  | '\r' :: rest => '\n' :: unifyBreaks rest
  | c :: rest => c :: unifyBreaks rest
  | [] => []

def linesOf (cs : List Char) : List Line :=
  let lines := Text.splitAll '\n' (unifyBreaks cs)
  if lines.getLast? == some [] then lines.dropLast else lines

def isGap (c : Char) : Bool := c == ' ' || c == '\t'

def skipGap (line : Line) : Line := line.dropWhile isGap

def trimGaps (line : Line) : Line := ((skipGap line).reverse.dropWhile isGap).reverse

def isEmptyLine (line : Line) : Bool := line.all isGap

def isIdle (line : Line) : Bool :=
  match skipGap line with
  | [] => true
  | c :: _ => c == '#'

def skipIdle (lines : List Line) : List Line := lines.dropWhile isIdle

def indentOf (line : Line) : Nat := (line.takeWhile (· == ' ')).length

def atGap : Line → Bool
  | [] => true
  | c :: _ => isGap c

def isMarker (line : Line) : Bool :=
  (line.take 3 == ['-', '-', '-'] || line.take 3 == ['.', '.', '.']) && atGap (line.drop 3)

def isDash : Line → Bool
  | '-' :: rest => atGap rest
  | _ => false

def foldedBreak (n : Nat) : List Char := if n = 0 then [' '] else List.replicate n '\n'

def foldRest : Nat → List Line → List Char
  | _, [] => []
  | n, [last] => foldedBreak n ++ last
  | n, part :: rest =>
    if part.isEmpty then foldRest (n + 1) rest else foldedBreak n ++ part ++ foldRest 0 rest

def foldLines : List Line → List Char
  | [] => []
  | first :: rest => first ++ foldRest 0 rest

def Cursor.finish? (c : Cursor) : Option (List Line) :=
  match c.line with
  | [] => some c.below
  | first :: _ => if isGap first && isIdle c.line then some c.below else none

end Leaderboard.Yaml
