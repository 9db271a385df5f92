import Leaderboard.Decimal.Shortest

set_option autoImplicit false

namespace Leaderboard.Decimal

structure Layout where
  positional : Int → Bool
  whole : String
  exponentSign : String
  notANumber : String
  infinite : String

def Layout.plain : Layout where
  positional := fun _ => true
  whole := ""
  exponentSign := ""
  notANumber := "NaN"
  infinite := "inf"

def zeros (n : Nat) : String := String.ofList (List.replicate n '0')

def positionalText (whole : String) (d : Digits) : String :=
  let text := toString d.digits
  if 0 ≤ d.exponent then text ++ zeros d.exponent.toNat ++ whole
  else
    let places := (-d.exponent).toNat
    if places < text.length then
      String.ofList (text.toList.take (text.length - places)) ++ "." ++
        String.ofList (text.toList.drop (text.length - places))
    else "0." ++ zeros (places - text.length) ++ text

def scientificText (sign : String) (d : Digits) : String :=
  let text := toString d.digits
  let weight : Int := d.exponent + text.length - 1
  let body := match text.toList with
    | first :: [] => String.ofList [first]
    | first :: rest => String.ofList (first :: '.' :: rest)
    | [] => ""
  body ++ "e" ++ (if 0 ≤ weight then sign else "") ++ toString weight

def Layout.magnitude (layout : Layout) (mantissa : Nat) (exponent : Int) : String :=
  if mantissa == 0 then "0" ++ layout.whole
  else
    let d := shortest mantissa exponent
    if layout.positional (d.exponent + (toString d.digits).length - 1) then
      positionalText layout.whole d
    else scientificText layout.exponentSign d

def signText (negative : Bool) : String := if negative then "-" else ""

def Layout.render (layout : Layout) (x : Float) : String :=
  match parts x with
  | .nan => layout.notANumber
  | .infinite negative => signText negative ++ layout.infinite
  | .finite negative mantissa exponent =>
    signText negative ++ layout.magnitude mantissa exponent

def plainText (x : Float) : String := Layout.plain.render x

end Leaderboard.Decimal
