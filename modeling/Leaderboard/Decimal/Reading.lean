import Leaderboard.Decimal.Parts

set_option autoImplicit false

namespace Leaderboard.Decimal

def digitValue (c : Char) : Nat := c.toNat - '0'.toNat

def natOfDigits (ds : List Char) : Nat := ds.foldl (fun n c => n * 10 + digitValue c) 0

def splitSign : List Char → Bool × List Char
  | '-' :: rest => (true, rest)
  | '+' :: rest => (false, rest)
  | cs => (false, cs)

def natural? (cs : List Char) : Option Nat :=
  if !cs.isEmpty && cs.all Char.isDigit then some (natOfDigits cs) else none

def integer? (cs : List Char) : Option Int :=
  match splitSign cs with
  | (true, rest) => (natural? rest).map (fun n => -(n : Int))
  | (false, rest) => (natural? rest).map (fun n => (n : Int))

def isDigitOf (base : Nat) (c : Char) : Bool :=
  if base ≤ 10 then '0' ≤ c && c.toNat < '0'.toNat + base
  else c.isDigit || ('a' ≤ c && c ≤ 'f') || ('A' ≤ c && c ≤ 'F')

def baseDigit (c : Char) : Nat :=
  if c.isDigit then c.toNat - '0'.toNat else c.toLower.toNat - 'a'.toNat + 10

def natOfBase? (base : Nat) (cs : List Char) : Option Nat :=
  if !cs.isEmpty && cs.all (isDigitOf base) then
    some (cs.foldl (fun n c => n * base + baseDigit c) 0)
  else none

def fit64? (n : Int) : Option Int :=
  if -(twoTo 63 : Int) ≤ n && n < twoTo 63 then some n else none

def integer64? (cs : List Char) : Option Int := (integer? cs).bind fit64?

def natural64? (cs : List Char) : Option UInt64 :=
  let digits := match cs with
    | '+' :: rest => rest
    | other => other
  match natural? digits with
  | some n => if n < twoTo 64 then some (UInt64.ofNat n) else none
  | none => none

def exponentPart : List Char → Option Int
  | [] => some 0
  | 'e' :: rest => integer? rest
  | 'E' :: rest => integer? rest
  | _ => none

def unsignedLiteral? (cs : List Char) : Option (Nat × Int) :=
  let whole := cs.takeWhile Char.isDigit
  let afterWhole := cs.dropWhile Char.isDigit
  let (part, afterPart) := match afterWhole with
    | '.' :: rest => (rest.takeWhile Char.isDigit, rest.dropWhile Char.isDigit)
    | rest => ([], rest)
  if whole.isEmpty && part.isEmpty then none
  else (exponentPart afterPart).map (fun e => (natOfDigits (whole ++ part), e - part.length))

def lowerAscii (cs : List Char) : List Char := cs.map Char.toLower

def number? (text : String) : Option Float :=
  let (negative, rest) := splitSign text.toList
  let word := String.ofList (lowerAscii rest)
  if word == "inf" || word == "infinity" then some (infinity negative)
  else if word == "nan" then some notANumber
  else (unsignedLiteral? rest).map (fun (digits, e) => ofDecimal negative digits e)

end Leaderboard.Decimal
