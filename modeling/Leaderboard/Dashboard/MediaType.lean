import Leaderboard.Text.Split

set_option autoImplicit false

namespace Leaderboard.Dashboard.MediaType

def isTokenChar (c : Char) : Bool := c.isAlphanum || "!#$%&'+-.^_`|~".toList.contains c

def isQuotedChar (c : Char) : Bool := 31 < c.toNat && c.toNat != 127

def afterQuote (cs : List Char) : Option (List Char) :=
  match cs.dropWhile (· == ' ') with
  | [] => some []
  | ';' :: rest => some (';' :: rest)
  | _ => none

-- A quoted value holds at least one character.
def afterValue : List Char → Option (List Char)
  | '"' :: first :: rest =>
    let content := rest.takeWhile (· != '"')
    match rest.dropWhile (· != '"') with
    | '"' :: more => if (first :: content).all isQuotedChar then afterQuote more else none
    | _ => none
  | ';' :: _ => none
  | cs =>
    match cs.dropWhile isTokenChar with
    | [] => some []
    | ';' :: rest => some (';' :: rest)
    | _ => none

def afterName (cs : List Char) : Option (List Char) :=
  match (cs.dropWhile (· == ' ')).dropWhile isTokenChar with
  | '=' :: rest => some rest
  | _ => none

def areParameters : Nat → List Char → Bool
  | _, [] => true
  | 0, _ => false
  | fuel + 1, ';' :: rest =>
    match (afterName rest).bind afterValue with
    | some more => areParameters fuel more
    | none => false
  | _, _ => false

-- A plus sign at the front starts no suffix.
def isSubtype : List Char → Bool
  | [] => false
  | first :: rest =>
    match (Text.splitAll '+' rest).reverse with
    | [] => false
    | [only] => first :: only == "json".toList
    | suffix :: before =>
      suffix == "json".toList || first :: Text.joinWith '+' before.reverse == "json".toList

def isJson (text : String) : Bool :=
  let cs := text.toList.map Char.toLower
  match Text.splitOnce? '/' cs with
  | none => false
  | some (main, rest) =>
    let subtype := rest.takeWhile isTokenChar
    let parameters := rest.dropWhile isTokenChar
    main == "application".toList && isSubtype subtype &&
      areParameters (parameters.length + 1) parameters

end Leaderboard.Dashboard.MediaType
