import Leaderboard.Decimal.Layout

set_option autoImplicit false

namespace Leaderboard.Decimal

def roundWhole (x : Float) : Float :=
  match parts x with
  | .finite negative mantissa exponent =>
    let (num, den) := fraction mantissa exponent
    nearest negative (divHalfUp num den) 1
  | _ => x

def round2 (x : Float) : Float := roundWhole (x * 100.0) / 100.0

def oneDecimal (x : Float) : String :=
  match parts x with
  | .nan => "NaN"
  | .infinite negative => signText negative ++ "inf"
  | .finite negative mantissa exponent =>
    let (num, den) := fraction mantissa exponent
    let tenths := divHalfEven (10 * num) den
    signText negative ++ toString (tenths / 10) ++ "." ++ toString (tenths % 10)

end Leaderboard.Decimal
