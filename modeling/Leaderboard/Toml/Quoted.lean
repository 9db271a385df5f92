import Leaderboard.Json.Reader

set_option autoImplicit false

namespace Leaderboard.Toml

def isPlainChar (c : Char) : Bool := c == '\t' || (32 ≤ c.toNat && c.toNat != 127)

def isGap (c : Char) : Bool := c == ' ' || c == '\t'

def skipGap (cs : List Char) : List Char := cs.dropWhile isGap

-- Up to two quotes may stand in front of the three that end a text.
def closing? (severalLines : Bool) (quote : Char) (cs : List Char) :
    Option (List Char × List Char) :=
  let quotes := min (cs.takeWhile (· == quote)).length 5
  if severalLines then
    if quotes < 3 then none else some (List.replicate (quotes - 3) quote, cs.drop quotes)
  else if quotes == 0 then none
  else some ([], cs.drop 1)

def readLiteral (severalLines : Bool) : List Char → Option (List Char × List Char)
  | [] => none
  | c :: rest =>
    match closing? severalLines '\'' (c :: rest) with
    | some found => some found
    | none =>
      if isPlainChar c || (severalLines && c == '\n') then
        (readLiteral severalLines rest).map (fun (text, more) => (c :: text, more))
      else none

def charOf? (n : Nat) : Option Char := if n.isValidChar then some (Char.ofNat n) else none

def readEscape? : List Char → Option (Char × List Char)
  | 'u' :: a :: b :: c :: d :: rest => do
    return (← charOf? (← Json.hexUnit? a b c d), rest)
  | 'U' :: a :: b :: c :: d :: e :: f :: g :: h :: rest => do
    let high ← Json.hexUnit? a b c d
    let low ← Json.hexUnit? e f g h
    return (← charOf? (high * 65536 + low), rest)
  | '/' :: _ => none
  | c :: rest => (Json.simpleEscape? c).map (fun e => (e, rest))
  | [] => none

-- A backslash at the end of a line joins it to what stands on the lines below.
def readBasic (severalLines : Bool) : Nat → List Char → Option (List Char × List Char)
  | 0, _ => none
  | _, [] => none
  | fuel + 1, c :: rest =>
    match closing? severalLines '"' (c :: rest) with
    | some found => some found
    | none =>
      if c == '\\' then
        match readEscape? rest with
        | some (e, more) =>
          (readBasic severalLines fuel more).map (fun (text, after) => (e :: text, after))
        | none =>
          if severalLines && (skipGap rest).head? == some '\n' then
            readBasic severalLines fuel (rest.dropWhile (fun c => isGap c || c == '\n'))
          else none
      else if isPlainChar c || (severalLines && c == '\n') then
        (readBasic severalLines fuel rest).map (fun (text, more) => (c :: text, more))
      else none

def dropBreak : List Char → List Char
  | '\n' :: rest => rest
  | cs => cs

def readQuoted? (cs : List Char) : Option (String × List Char) :=
  let found := match cs with
    | '"' :: '"' :: '"' :: rest => readBasic true rest.length.succ (dropBreak rest)
    | '"' :: rest => readBasic false rest.length.succ rest
    | '\'' :: '\'' :: '\'' :: rest => readLiteral true (dropBreak rest)
    | '\'' :: rest => readLiteral false rest
    | _ => none
  found.map (fun (text, more) => (String.ofList text, more))

end Leaderboard.Toml
