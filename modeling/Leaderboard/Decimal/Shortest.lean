import Leaderboard.Decimal.Parts

set_option autoImplicit false

namespace Leaderboard.Decimal

structure Digits where
  digits : Nat
  exponent : Int
deriving Repr, DecidableEq

-- Estimated from the binary scale, then settled by comparison.
def decimalScale (num den : Nat) : Int :=
  let guess : Int := binaryScale num den * 30103 / 100000
  let below (k : Int) : Bool := num * tenTo (-k).toNat < den * tenTo k.toNat
  if below (guess - 1) then guess - 1
  else if below guess then guess
  else if below (guess + 1) then guess + 1
  else guess + 2

def readsBack (bits : Nat) (d : Digits) : Bool :=
  d.digits != 0 &&
    magnitudeBits (d.digits * tenTo d.exponent.toNat) (tenTo (-d.exponent).toNat) == bits

def onGrid (num den bits : Nat) (scale : Int) (count : Nat) : Option Digits :=
  let exponent := scale - count
  let top := num * tenTo (-exponent).toNat
  let unit := den * tenTo exponent.toNat
  let down := top / unit
  let lower : Digits := ⟨down, exponent⟩
  let upper : Digits := ⟨down + 1, exponent⟩
  match readsBack bits lower, readsBack bits upper with
  | true, false => some lower
  | false, true => some upper
  | false, false => none
  | true, true =>
    match compare (2 * (top % unit)) unit with
    | .lt => some lower
    | .gt => some upper
    | .eq => if down % 2 == 0 then some lower else some upper

def stripZeros : Nat → Digits → Digits
  | 0, d => d
  | fuel + 1, d =>
    if d.digits != 0 && d.digits % 10 == 0 then stripZeros fuel ⟨d.digits / 10, d.exponent + 1⟩
    else d

def expansion (mantissa : Nat) (exponent : Int) : Digits :=
  if 0 ≤ exponent then ⟨mantissa * twoTo exponent.toNat, 0⟩
  else ⟨mantissa * Nat.pow 5 (-exponent).toNat, exponent⟩

-- Seventeen digits are enough for every number; the expansion keeps the result a true value.
def shortest (mantissa : Nat) (exponent : Int) : Digits :=
  let (num, den) := fraction mantissa exponent
  let bits := magnitudeBits num den
  let scale := decimalScale num den
  match (List.range 17).findSome? (fun n => onGrid num den bits scale (n + 1)) with
  | some d => stripZeros 20 d
  | none => expansion mantissa exponent

end Leaderboard.Decimal
