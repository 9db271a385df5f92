import Leaderboard.Decimal.Reading

set_option autoImplicit false

namespace Leaderboard.Yaml

def isZeroPadded (cs : List Char) : Bool :=
  match (Decimal.splitSign cs).2 with
  | '0' :: c :: rest => (c :: rest).all Char.isDigit
  | _ => false

def basedDigits : List Char → Option (Nat × List Char)
  | '0' :: 'x' :: rest => some (16, rest)
  | '0' :: 'o' :: rest => some (8, rest)
  | '0' :: 'b' :: rest => some (2, rest)
  | _ => none

def dropPlus? : List Char → Option (List Char)
  | '+' :: '+' :: _ => none
  | '+' :: '-' :: _ => none
  | '+' :: rest => some rest
  | cs => some cs

def readsAsInteger (cs : List Char) : Bool :=
  match dropPlus? cs with
  | none => false
  | some unsigned =>
    let (negative, magnitude) := match unsigned with
      | '-' :: rest => (true, rest)
      | other => (false, other)
    let limit := if negative then Decimal.twoTo 127 else Decimal.twoTo 128 - 1
    let based := match basedDigits magnitude with
      | some (base, digits) => (Decimal.natOfBase? base digits).any (· ≤ limit)
      | none => false
    based || (!isZeroPadded cs && (Decimal.natural? magnitude).any (· ≤ limit))

def readsAsReal (cs : List Char) : Bool :=
  let text := String.ofList cs
  match dropPlus? cs with
  | none => false
  | some unsigned =>
    let word := String.ofList unsigned
    word == ".inf" || word == ".Inf" || word == ".INF" ||
    text == "-.inf" || text == "-.Inf" || text == "-.INF" ||
    text == ".nan" || text == ".NaN" || text == ".NAN" ||
    (Decimal.number? word).any Decimal.isFinite

def readsAsNull (text : String) : Bool :=
  text == "" || text == "~" || text == "null" || text == "Null" || text == "NULL"

def readsAsBoolean (text : String) : Bool :=
  text == "true" || text == "True" || text == "TRUE" ||
  text == "false" || text == "False" || text == "FALSE"

def needsQuotes (text : String) : Bool :=
  let cs := text.toList
  readsAsNull text || readsAsBoolean text || readsAsInteger cs || isZeroPadded cs ||
    readsAsReal cs

end Leaderboard.Yaml
