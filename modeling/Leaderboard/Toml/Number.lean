import Leaderboard.Decimal.Reading
import Leaderboard.Text.Split

set_option autoImplicit false

namespace Leaderboard.Toml

def plainDigits? (isDigit : Char → Bool) : List Char → Option (List Char)
  | [] => none
  | [c] => if isDigit c then some [c] else none
  | c :: '_' :: rest => if isDigit c then (plainDigits? isDigit rest).map (c :: ·) else none
  | c :: rest => if isDigit c then (plainDigits? isDigit rest).map (c :: ·) else none

def wholeDigits? (cs : List Char) : Option (List Char) :=
  match plainDigits? Char.isDigit cs with
  | some ('0' :: _ :: _) => none
  | digits => digits

def based? (base : Nat) (cs : List Char) : Option Int := do
  let digits ← plainDigits? (Decimal.isDigitOf base) cs
  Decimal.fit64? (← Decimal.natOfBase? base digits)

def integer? : List Char → Option Int
  | '0' :: 'x' :: digits => based? 16 digits
  | '0' :: 'o' :: digits => based? 8 digits
  | '0' :: 'b' :: digits => based? 2 digits
  | cs => do
    let (negative, unsigned) := Decimal.splitSign cs
    let n : Int := Decimal.natOfDigits (← wholeDigits? unsigned)
    Decimal.fit64? (if negative then -n else n)

def exponent? (cs : List Char) : Option Int := do
  let (negative, unsigned) := Decimal.splitSign cs
  let n : Int := Decimal.natOfDigits (← plainDigits? Char.isDigit unsigned)
  return if negative then -n else n

def isExponentMark (c : Char) : Bool := c == 'e' || c == 'E'

def decimal? (negative : Bool) (cs : List Char) : Option Float := do
  let mantissa := cs.takeWhile (fun c => !isExponentMark c)
  let power := (cs.drop mantissa.length).drop 1
  let hasPower := mantissa.length < cs.length
  let (whole, places) := match Text.splitOnce? '.' mantissa with
    | some (whole, places) => (whole, some places)
    | none => (mantissa, none)
  if places.isNone && !hasPower then none
  let whole ← wholeDigits? whole
  let places ← match places with
    | some digits => plainDigits? Char.isDigit digits
    | none => some []
  let exponent ← if hasPower then exponent? power else some 0
  let x := Decimal.ofDecimal negative (Decimal.natOfDigits (whole ++ places))
    (exponent - places.length)
  if Decimal.isFinite x then some x else none

def real? (cs : List Char) : Option Float :=
  let (negative, unsigned) := Decimal.splitSign cs
  if unsigned == "inf".toList then some (Decimal.infinity negative)
  else if unsigned == "nan".toList then some Decimal.notANumber
  else decimal? negative unsigned

end Leaderboard.Toml
