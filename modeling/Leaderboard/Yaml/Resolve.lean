import Leaderboard.Json.Basic
import Leaderboard.Yaml.Scalar

set_option autoImplicit false

namespace Leaderboard.Yaml

def signedOfBase? (base : Nat) (cs : List Char) : Option Int :=
  let (negative, digits) := Decimal.splitSign cs
  match Decimal.natOfBase? base digits with
  | some n => Decimal.fit64? (if negative then -(n : Int) else n)
  | none => none

def markedInteger? : List Char → Option Int
  | '0' :: 'x' :: digits => signedOfBase? 16 digits
  | '0' :: 'o' :: digits => signedOfBase? 8 digits
  | '+' :: digits => Decimal.integer64? digits
  | _ => none

def specialNumbers : List String :=
  [".inf", ".Inf", ".INF", "+.inf", "+.Inf", "+.INF", "-.inf", "-.Inf", "-.INF", ".nan", ".NAN"]

def decimal? (text : String) : Option Float :=
  if text == "NaN" then some Decimal.notANumber
  else if text.toList.any Char.isDigit then Decimal.number? text
  else none

-- A word for infinity is a number that no setting can hold, so it counts as unreadable.
def resolve? (text : String) : Option Json :=
  if text == "" || text == "~" || text == "null" then some .null
  else if text == "true" then some (.boolean true)
  else if text == "false" then some (.boolean false)
  else if specialNumbers.contains text then none
  else
    match markedInteger? text.toList with
    | some n => some (.integer n)
    | none =>
      match Decimal.integer64? text.toList with
      | some n => some (.integer n)
      | none =>
        match decimal? text with
        | some x => some (.real x)
        | none => some (.text text)

end Leaderboard.Yaml
