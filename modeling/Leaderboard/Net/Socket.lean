import Leaderboard.Net.Address

set_option autoImplicit false

namespace Leaderboard.Net

inductive SocketAddress
  | v4 (address : Ipv4) (port : Nat)
  | v6 (address : Ipv6) (scope port : Nat)
deriving Repr, DecidableEq

namespace SocketAddress

def syntaxMessage : String := "invalid socket address syntax"

def number? (limit : Nat) (cs : List Char) : Option Nat :=
  (Decimal.natural? cs).filter (· < limit)

def port? (cs : List Char) : Option Nat := number? 65536 cs

def splitPort? (cs : List Char) : Option (List Char × List Char) :=
  (Text.splitOnce? ':' cs.reverse).map (fun (port, address) => (address.reverse, port.reverse))

def scoped? (cs : List Char) : Option (Ipv6 × Nat) :=
  match Text.splitOnce? '%' cs with
  | some (address, scope) => do return (← Ipv6.parse? address, ← number? 0x100000000 scope)
  | none => (Ipv6.parse? cs).map (fun address => (address, 0))

def unbracket? (cs : List Char) : Option (List Char) :=
  match cs with
  | '[' :: rest =>
    match rest.reverse with
    | ']' :: inside => some inside.reverse
    | _ => none
  | _ => none

def parse? (text : String) : Option SocketAddress := do
  let (host, portText) ← splitPort? text.toList
  let port ← port? portText
  match unbracket? host with
  | some inside => do
    let (address, scope) ← scoped? inside
    return .v6 address scope port
  | none => do return .v4 (← Ipv4.parse? host) port

def text : SocketAddress → String
  | v4 address port => address.text ++ ":" ++ toString port
  | v6 address scope port =>
    "[" ++ address.mixedText ++ (if scope = 0 then "" else "%" ++ toString scope) ++ "]:" ++
      toString port

end SocketAddress

end Leaderboard.Net
