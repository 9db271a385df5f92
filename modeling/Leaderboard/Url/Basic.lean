import Leaderboard.Url.Host

set_option autoImplicit false

namespace Leaderboard

structure Url where
  scheme : String
  userinfo : String
  host : String
  port : Option Nat
  path : String
  query : Option String
  fragment : Option String
deriving Repr, DecidableEq

namespace Url

def text (u : Url) : String :=
  u.scheme ++ "://" ++ u.userinfo ++ u.host ++
    ((u.port.map (fun p => ":" ++ toString p)).getD "") ++ u.path ++
    ((u.query.map ("?" ++ ·)).getD "") ++ ((u.fragment.map ("#" ++ ·)).getD "")

def usualPorts : List (String × Nat) :=
  [("http", 80), ("https", 443), ("ws", 80), ("wss", 443), ("ftp", 21)]

def usualPort? (scheme : String) : Option Nat := usualPorts.lookup scheme

def isSpecial (scheme : String) : Bool := (usualPort? scheme).isSome

def clean (cs : List Char) : List Char :=
  let isEdge (c : Char) : Bool := c.toNat ≤ 0x20
  let trimmed := ((cs.dropWhile isEdge).reverse.dropWhile isEdge).reverse
  trimmed.filter (fun c => c != '\t' && c != '\n' && c != '\r')

def isSchemeChar (c : Char) : Bool := c.isAlphanum || c == '+' || c == '-' || c == '.'

def splitScheme? (cs : List Char) : Option (String × List Char) :=
  match cs with
  | [] => none
  | first :: _ =>
    match cs.dropWhile isSchemeChar with
    | ':' :: rest =>
      if first.isAlpha then some (String.ofList ((cs.takeWhile isSchemeChar).map Char.toLower), rest)
      else none
    | _ => none

-- A backslash counts as a slash where domain names are known.
def endsAuthority (special : Bool) (c : Char) : Bool :=
  c == '/' || c == '?' || c == '#' || (special && c == '\\')

def splitUser? (cs : List Char) : Option (List Char × List Char) :=
  (Text.splitOnce? '@' cs.reverse).map (fun (after, before) => (before.reverse, after.reverse))

def userText (cs : List Char) : String :=
  let (name, password) := (Text.splitOnce? ':' cs).getD (cs, [])
  let secret := if password.isEmpty then [] else ':' :: encodeText .userinfo password
  let all := encodeText .userinfo name ++ secret
  if all.isEmpty then "" else String.ofList all ++ "@"

def splitHost : Bool → List Char → List Char × List Char
  | _, [] => ([], [])
  | inside, c :: rest =>
    if c == ':' && !inside then ([], c :: rest)
    else
      let (host, more) := splitHost (if c == '[' then true else if c == ']' then false else inside) rest
      (c :: host, more)

def readPort (cs : List Char) : Except UrlError (Option Nat) :=
  match cs with
  | [] => .ok none
  | _ :: digits =>
    let number := digits.takeWhile Char.isDigit
    let rest := digits.dropWhile Char.isDigit
    if Decimal.natOfDigits number > 65535 then .error .invalidPort
    else if !rest.isEmpty && rest.head? != some '\\' then .error .invalidPort
    else if number.isEmpty then .ok none
    else .ok (some (Decimal.natOfDigits number))

def isSingleDot (segment : List Char) : Bool :=
  let s := String.ofList (segment.map Char.toLower)
  s == "." || s == "%2e"

def isDoubleDot (segment : List Char) : Bool :=
  let s := String.ofList (segment.map Char.toLower)
  s == ".." || s == "%2e%2e" || s == "%2e." || s == ".%2e"

-- A drive letter stays when a path goes up.
def isDriveLetter : List Char → Bool
  | [c, mark] => c.isAlpha && (mark == ':' || mark == '|')
  | _ => false

def goUp (above : List (List Char)) : List (List Char) :=
  match above with
  | [] => []
  | top :: rest => if isDriveLetter top then top :: rest else rest

-- The segments already passed are given with the last one first.
def resolveDots : List (List Char) → List (List Char) → List (List Char)
  | above, [] => above.reverse
  | above, [last] =>
    if isDoubleDot last then (([] : List Char) :: goUp above).reverse
    else if isSingleDot last then (([] : List Char) :: above).reverse
    else (last :: above).reverse
  | above, segment :: next :: rest =>
    if isDoubleDot segment then resolveDots (goUp above) (next :: rest)
    else if isSingleDot segment then resolveDots above (next :: rest)
    else resolveDots (segment :: above) (next :: rest)

def pathText (cs : List Char) : String :=
  let slashed := cs.map (fun c => if c == '\\' then '/' else c)
  let relative := if slashed.head? == some '/' then slashed.drop 1 else slashed
  let segments := (Text.splitAll '/' relative).map (encodeText .path)
  String.ofList ('/' :: Text.joinWith '/' (resolveDots [] segments))

def splitTail (cs : List Char) : List Char × Option (List Char) × Option (List Char) :=
  let (front, fragment) := match Text.splitOnce? '#' cs with
    | some (front, fragment) => (front, some fragment)
    | none => (cs, none)
  match Text.splitOnce? '?' front with
  | some (path, query) => (path, some query, fragment)
  | none => (front, none, fragment)

structure Authority where
  userinfo : String
  host : String
  port : Option Nat
  rest : List Char

def readAuthority (scheme : String) (cs : List Char) : Except UrlError Authority := do
  let special := isSpecial scheme
  let authority := cs.takeWhile (fun c => !endsAuthority special c)
  let rest := cs.dropWhile (fun c => !endsAuthority special c)
  let (user, place) := (splitUser? authority).getD ([], authority)
  if (splitUser? authority).isSome && user.isEmpty && place.isEmpty && !rest.isEmpty then
    throw .emptyHost
  let (hostText, portText) := splitHost false place
  if hostText.isEmpty && (special || !portText.isEmpty) then throw .emptyHost
  let host ← if special then Host.parse hostText else Host.parseOpaque hostText
  let port ← readPort portText
  let userinfo := userText user
  if host.isEmpty && !userinfo.isEmpty then throw .emptyHost
  return ⟨userinfo, host, if port = usualPort? scheme then none else port, rest⟩

def readSpecial (scheme : String) (cs : List Char) : Except UrlError Url := do
  let a ← readAuthority scheme (cs.dropWhile (fun c => c == '/' || c == '\\'))
  let (path, query, fragment) := splitTail a.rest
  return {
    scheme := scheme
    userinfo := a.userinfo
    host := a.host
    port := a.port
    path := pathText path
    query := query.map (fun q => String.ofList (encodeText .query q))
    fragment := fragment.map (fun f => String.ofList (encodeText .fragment f)) }

def readFile (cs : List Char) : Except UrlError Url := do
  let isSlash (c : Char) : Bool := c == '/' || c == '\\'
  let host ← match cs with
    | a :: b :: rest =>
      let place := rest.takeWhile (fun c => !endsAuthority true c)
      if isSlash a && isSlash b && !place.isEmpty && !isDriveLetter place then Host.parse place
      else .ok ""
    | _ => .ok ""
  return ⟨"file", "", host, none, String.ofList cs, none, none⟩

def readOther (scheme : String) (cs : List Char) : Except UrlError Url :=
  match cs with
  | '/' :: '/' :: rest => do
    let a ← readAuthority scheme rest
    return ⟨scheme, a.userinfo, a.host, a.port, String.ofList a.rest, none, none⟩
  | _ => .ok ⟨scheme, "", "", none, String.ofList cs, none, none⟩

def parse (text : String) : Except UrlError Url :=
  match splitScheme? (clean text.toList) with
  | none => .error .relative
  | some (scheme, rest) =>
    if isSpecial scheme then readSpecial scheme rest
    else if scheme == "file" then readFile rest
    else readOther scheme rest

def isWeb (u : Url) : Bool := u.scheme == "http" || u.scheme == "https"

def withoutUser (u : Url) : Url := { u with userinfo := "" }

end Url

end Leaderboard
