set_option autoImplicit false

namespace Leaderboard.Decimal

def twoTo (n : Nat) : Nat := Nat.pow 2 n

def tenTo (n : Nat) : Nat := Nat.pow 10 n

inductive Parts
  | nan
  | infinite (negative : Bool)
  | finite (negative : Bool) (mantissa : Nat) (exponent : Int)
deriving Repr, DecidableEq

def parts (x : Float) : Parts :=
  let bits := x.toBits.toNat
  let negative := bits / twoTo 63 == 1
  let field : Nat := bits / twoTo 52 % twoTo 11
  let fraction : Nat := bits % twoTo 52
  if field == 2047 then
    if fraction == 0 then .infinite negative else .nan
  else if field == 0 then
    .finite negative fraction (-1074)
  else
    .finite negative (fraction + twoTo 52) ((field : Int) - 1075)

def isFinite (x : Float) : Bool :=
  match parts x with
  | .finite .. => true
  | _ => false

def divHalfEven (num den : Nat) : Nat :=
  let down := num / den
  match compare (2 * (num % den)) den with
  | .lt => down
  | .gt => down + 1
  | .eq => down + down % 2

def divHalfUp (num den : Nat) : Nat := (2 * num + den) / (2 * den)

def fraction (mantissa : Nat) (exponent : Int) : Nat × Nat :=
  (mantissa * twoTo exponent.toNat, twoTo (-exponent).toNat)

def binaryScale (num den : Nat) : Int :=
  let guess : Int := (num.log2 : Int) - den.log2
  let (low, unit) := fraction 1 guess
  if num * unit < low * den then guess - 1 else guess

-- A carry out of the mantissa moves into the exponent field by itself.
def magnitudeBits (num den : Nat) : Nat :=
  let weight : Int := max (binaryScale num den - 52) (-1074)
  let mantissa := divHalfEven (num * twoTo (-weight).toNat) (den * twoTo weight.toNat)
  min ((weight + 1074).toNat * twoTo 52 + mantissa) (2047 * twoTo 52)

def nearest (negative : Bool) (num den : Nat) : Float :=
  let sign := if negative then twoTo 63 else 0
  Float.ofBits (UInt64.ofNat (sign + if num == 0 then 0 else magnitudeBits num den))

def infinity (negative : Bool) : Float :=
  Float.ofBits (UInt64.ofNat ((if negative then twoTo 63 else 0) + 2047 * twoTo 52))

def notANumber : Float := Float.ofBits 0x7FF8000000000000

-- Exponents far out of range are answered without computing the power.
def ofDecimal (negative : Bool) (digits : Nat) (exponent : Int) : Float :=
  if digits == 0 then nearest negative 0 1
  else if exponent > 400 then infinity negative
  else if (digits.log2 : Int) + 1 + exponent < -400 then nearest negative 0 1
  else nearest negative (digits * tenTo exponent.toNat) (tenTo (-exponent).toNat)

end Leaderboard.Decimal
