import Leaderboard.Json.Basic
import Leaderboard.Decimal.Reading

set_option autoImplicit false

namespace Leaderboard.Json

def isSpace (c : Char) : Bool := c == ' ' || c == '\n' || c == '\t' || c == '\r'

def skipSpace (cs : List Char) : List Char := cs.dropWhile isSpace

-- A unit is a number of sixteen bits written as an escape.
inductive Piece
  | char (c : Char)
  | unit (n : Nat)

def hexDigit? (c : Char) : Option Nat :=
  if '0' ≤ c && c ≤ '9' then some (c.toNat - '0'.toNat)
  else if 'a' ≤ c && c ≤ 'f' then some (c.toNat - 'a'.toNat + 10)
  else if 'A' ≤ c && c ≤ 'F' then some (c.toNat - 'A'.toNat + 10)
  else none

def hexUnit? (a b c d : Char) : Option Nat := do
  let a ← hexDigit? a
  let b ← hexDigit? b
  let c ← hexDigit? c
  let d ← hexDigit? d
  return ((a * 16 + b) * 16 + c) * 16 + d

def simpleEscape? (c : Char) : Option Char :=
  if c == '"' || c == '\\' || c == '/' then some c
  else if c == 'b' then some (Char.ofNat 8)
  else if c == 'f' then some (Char.ofNat 12)
  else if c == 'n' then some '\n'
  else if c == 'r' then some '\r'
  else if c == 't' then some '\t'
  else none

def readPieces : List Char → Option (List Piece × List Char)
  | [] => none
  | '"' :: rest => some ([], rest)
  | '\\' :: 'u' :: a :: b :: c :: d :: rest =>
    match hexUnit? a b c d with
    | none => none
    | some n => (readPieces rest).map (fun (pieces, more) => (.unit n :: pieces, more))
  | '\\' :: c :: rest =>
    match simpleEscape? c with
    | none => none
    | some e => (readPieces rest).map (fun (pieces, more) => (.char e :: pieces, more))
  | c :: rest =>
    if c.toNat < 0x20 || c == '\\' then none
    else (readPieces rest).map (fun (pieces, more) => (.char c :: pieces, more))

def isHighSurrogate (n : Nat) : Bool := 0xD800 ≤ n && n ≤ 0xDBFF

def isLowSurrogate (n : Nat) : Bool := 0xDC00 ≤ n && n ≤ 0xDFFF

def joinPieces : List Piece → Option (List Char)
  | [] => some []
  | .char c :: rest => (joinPieces rest).map (c :: ·)
  | .unit high :: .unit low :: rest =>
    if isHighSurrogate high then
      if isLowSurrogate low then
        (joinPieces rest).map
          (Char.ofNat (0x10000 + (high - 0xD800) * 0x400 + (low - 0xDC00)) :: ·)
      else none
    else if isLowSurrogate high then none
    else (joinPieces (.unit low :: rest)).map (Char.ofNat high :: ·)
  | .unit n :: rest =>
    if isHighSurrogate n || isLowSurrogate n then none
    else (joinPieces rest).map (Char.ofNat n :: ·)

def readText (cs : List Char) : Option (String × List Char) := do
  let (pieces, rest) ← readPieces cs
  let chars ← joinPieces pieces
  return (String.ofList chars, rest)

def readDigits (cs : List Char) : Option (List Char × List Char) :=
  let digits := cs.takeWhile Char.isDigit
  if digits.isEmpty then none else some (digits, cs.dropWhile Char.isDigit)

def readWhole : List Char → Option (List Char × List Char)
  | '0' :: rest =>
    match rest with
    | c :: _ => if c.isDigit then none else some (['0'], rest)
    | [] => some (['0'], rest)
  | cs => readDigits cs

def readPlaces : List Char → Option (Option (List Char) × List Char)
  | '.' :: rest => (readDigits rest).map (fun (digits, more) => (some digits, more))
  | cs => some (none, cs)

def readExponent : List Char → Option (Option Int × List Char)
  | c :: rest =>
    if c == 'e' || c == 'E' then
      let (negative, unsigned) := Decimal.splitSign rest
      (readDigits unsigned).map (fun (digits, more) =>
        let n : Int := Decimal.natOfDigits digits
        (some (if negative then -n else n), more))
    else some (none, c :: rest)
  | [] => some (none, [])

-- The number nearest to what is written. That numbers are rounded so is an assumption, on which the
-- round trip rests. One that is too large for 64 bits is no number.
def numberOf (negative : Bool) (whole : List Char) (places : Option (List Char))
    (exponent : Option Int) : Option Json :=
  let approximate (digits : List Char) (e : Int) : Option Json :=
    let x := Decimal.ofDecimal negative (Decimal.natOfDigits digits) e
    if Decimal.isFinite x then some (.real x) else none
  match places, exponent with
  | none, none =>
    let n := Decimal.natOfDigits whole
    if negative then
      if n == 0 || n > Decimal.twoTo 63 then approximate whole 0 else some (.integer (-(n : Int)))
    else if n < Decimal.twoTo 64 then some (.integer n)
    else approximate whole 0
  | _, _ =>
    let part := places.getD []
    approximate (whole ++ part) (exponent.getD 0 - part.length)

def readNumber (cs : List Char) : Option (Json × List Char) := do
  let (negative, unsigned) := match cs with
    | '-' :: rest => (true, rest)
    | other => (false, other)
  let (whole, afterWhole) ← readWhole unsigned
  let (places, afterPlaces) ← readPlaces afterWhole
  let (exponent, rest) ← readExponent afterPlaces
  let number ← numberOf negative whole places exponent
  return (number, rest)

def readWord (word : String) (cs : List Char) : Option (List Char) :=
  let letters := word.toList
  if cs.take letters.length == letters then some (cs.drop letters.length) else none

def readScalar : List Char → Option (Json × List Char)
  | 'n' :: rest => (readWord "ull" rest).map (fun more => (.null, more))
  | 't' :: rest => (readWord "rue" rest).map (fun more => (.boolean true, more))
  | 'f' :: rest => (readWord "alse" rest).map (fun more => (.boolean false, more))
  | cs => readNumber cs

def readName (cs : List Char) : Option (String × List Char) :=
  match skipSpace cs with
  | '"' :: rest =>
    match readText rest with
    | none => none
    | some (name, more) =>
      match skipSpace more with
      | ':' :: value => some (name, value)
      | _ => none
  | _ => none

mutual

def readValue (depth : Nat) : Nat → List Char → Option (Json × List Char)
  | 0, _ => none
  | fuel + 1, cs =>
    match skipSpace cs with
    | '"' :: rest => (readText rest).map (fun (s, more) => (.text s, more))
    | '[' :: rest =>
      if depth == 0 then none
      else match skipSpace rest with
        | ']' :: more => some (.list [], more)
        | items =>
          (readItems (depth - 1) fuel items).map (fun (values, more) => (.list values, more))
    | '\x7b' :: rest =>
      if depth == 0 then none
      else match skipSpace rest with
        | '\x7d' :: more => some (.object [], more)
        | members =>
          (readMembers (depth - 1) fuel members).map (fun (pairs, more) => (.object pairs, more))
    | scalar => readScalar scalar

def readItems (depth : Nat) : Nat → List Char → Option (List Json × List Char)
  | 0, _ => none
  | fuel + 1, cs =>
    match readValue depth fuel cs with
    | none => none
    | some (value, more) =>
      match skipSpace more with
      | ',' :: rest =>
        (readItems depth fuel rest).map (fun (values, after) => (value :: values, after))
      | ']' :: rest => some ([value], rest)
      | _ => none

def readMembers (depth : Nat) : Nat → List Char → Option (List (String × Json) × List Char)
  | 0, _ => none
  | fuel + 1, cs =>
    match readName cs with
    | none => none
    | some (name, valueText) =>
      match readValue depth fuel valueText with
      | none => none
      | some (value, more) =>
        match skipSpace more with
        | ',' :: rest =>
          (readMembers depth fuel rest).map (fun (pairs, after) => ((name, value) :: pairs, after))
        | '\x7d' :: rest => some ([(name, value)], rest)
        | _ => none

end

def maxDepth : Nat := 127

-- A value or a list of items starts at every character at most.
def fuelFor (cs : List Char) : Nat := 2 * cs.length + 2

def readPart (depth : Nat) (cs : List Char) : Option (Json × List Char) :=
  readValue depth (fuelFor cs) cs

def read? (cs : List Char) : Option Json :=
  match readPart maxDepth cs with
  | some (value, rest) => if (skipSpace rest).isEmpty then some value else none
  | none => none

end Leaderboard.Json
