import Leaderboard.Net.Address
import Leaderboard.Url.Domain
import Leaderboard.Url.Encoding

set_option autoImplicit false

namespace Leaderboard.Url

inductive UrlError
  | relative
  | emptyHost
  | invalidPort
  | invalidIpv6
  | invalidIpv4
  | invalidDomain
  | invalidDomainCharacter
deriving Repr, DecidableEq

def UrlError.message : UrlError → String
  | relative => "relative URL without a base"
  | emptyHost => "empty host"
  | invalidPort => "invalid port number"
  | invalidIpv6 => "invalid IPv6 address"
  | invalidIpv4 => "invalid IPv4 address"
  | invalidDomain => "invalid international domain name"
  | invalidDomainCharacter => "invalid domain character"

namespace Host

def numberBase : List Char → List Char × Nat
  | '0' :: 'x' :: rest => (rest, 16)
  | '0' :: 'X' :: rest => (rest, 16)
  | '0' :: c :: rest => (c :: rest, 8)
  | cs => (cs, 10)

def number? (cs : List Char) : Option Nat :=
  if cs.isEmpty then none
  else
    let (digits, base) := numberBase cs
    match digits.mapM Net.Ipv6.hexValue? with
    | some values =>
      if values.all (· < base) then some (values.foldl (fun n d => n * base + d) 0) else none
    | none => none

def labels (cs : List Char) : List (List Char) :=
  let parts := Text.splitAll '.' cs
  if parts.getLast? == some [] then parts.dropLast else parts

def endsInNumber (cs : List Char) : Bool :=
  match (labels cs).getLast? with
  | some last => !last.isEmpty && (last.all Char.isDigit || (number? last).isSome)
  | none => false

-- The last number fills the places of the missing ones.
def ipv4? (cs : List Char) : Option Net.Ipv4 := do
  let numbers ← (labels cs).mapM number?
  let last ← numbers.getLast?
  let before := numbers.dropLast
  if 3 < before.length || before.any (255 < ·) || Nat.pow 256 (4 - before.length) ≤ last then none
  else
    let high := before.zipIdx.foldl (fun n (x, i) => n + x * Nat.pow 256 (3 - i)) 0
    some (Net.Ipv4.ofNat (high + last))

def bracketed (cs : List Char) : Except UrlError String :=
  match cs.getLast? with
  | some ']' =>
    match Net.Ipv6.parse? (cs.drop 1).dropLast with
    | some address => .ok ("[" ++ address.text ++ "]")
    | none => .error .invalidIpv6
  | _ => .error .invalidIpv6

def startsBracketed (cs : List Char) : Bool := cs.head? == some '['

def parse (cs : List Char) : Except UrlError String :=
  if startsBracketed cs then bracketed cs
  else
    match Text.decode? (Text.percentDecode (Text.encode (String.ofList cs))) with
    | none => .error .invalidDomain
    | some decoded =>
      match Domain.toAscii? decoded.toList with
      | none => .error .invalidDomain
      | some domain =>
        if domain.isEmpty then .error .emptyHost
        else if endsInNumber domain then
          match ipv4? domain with
          | some address => .ok address.text
          | none => .error .invalidIpv4
        else .ok (String.ofList domain)

def isForbidden (c : Char) : Bool :=
  c.toNat == 0 || "\t\n\r #/:<>?@[\\]^|".toList.contains c

def parseOpaque (cs : List Char) : Except UrlError String :=
  if startsBracketed cs then bracketed cs
  else if cs.any isForbidden then .error .invalidDomainCharacter
  else .ok (String.ofList (encodeText .opaqueHost cs))

end Host

end Leaderboard.Url
