import Leaderboard.Text.Quoted
import Leaderboard.Text.Split
import Leaderboard.Decimal.Reading

set_option autoImplicit false

namespace Leaderboard.Net

structure Ipv4 where
  a : Nat
  b : Nat
  c : Nat
  d : Nat
deriving Repr, DecidableEq

namespace Ipv4

def text (x : Ipv4) : String :=
  toString x.a ++ "." ++ toString x.b ++ "." ++ toString x.c ++ "." ++ toString x.d

def part? (cs : List Char) : Option Nat :=
  if cs.length ≤ 3 && (cs.length ≤ 1 || cs.head? != some '0') then
    (Decimal.natural? cs).filter (· < 256)
  else none

def parse? (cs : List Char) : Option Ipv4 :=
  match Text.splitAll '.' cs with
  | [a, b, c, d] => do return ⟨← part? a, ← part? b, ← part? c, ← part? d⟩
  | _ => none

def ofNat (n : Nat) : Ipv4 :=
  ⟨n / 0x1000000 % 256, n / 0x10000 % 256, n / 0x100 % 256, n % 256⟩

end Ipv4

structure Ipv6 where
  groups : List Nat
deriving Repr, DecidableEq

namespace Ipv6

def hexValue? (c : Char) : Option Nat :=
  if '0' ≤ c && c ≤ '9' then some (c.toNat - '0'.toNat)
  else if 'a' ≤ c && c ≤ 'f' then some (c.toNat - 'a'.toNat + 10)
  else if 'A' ≤ c && c ≤ 'F' then some (c.toNat - 'A'.toNat + 10)
  else none

def group? (cs : List Char) : Option Nat :=
  if cs.isEmpty || 4 < cs.length then none
  else (cs.mapM hexValue?).map (fun digits => digits.foldl (fun n d => n * 16 + d) 0)

-- At the very end of an address an older one may stand for two groups.
def parts? (atEnd : Bool) : List (List Char) → Option (List Nat)
  | [] => some []
  | [last] =>
    match group? last with
    | some g => some [g]
    | none =>
      if atEnd then
        (Ipv4.parse? last).map (fun x => [x.a * 256 + x.b, x.c * 256 + x.d])
      else none
  | part :: next :: rest => do return (← group? part) :: (← parts? atEnd (next :: rest))

def side? (atEnd : Bool) (cs : List Char) : Option (List Nat) :=
  if cs.isEmpty then some [] else parts? atEnd (Text.splitAll ':' cs)

def splitDouble? : List Char → Option (List Char × List Char)
  | ':' :: ':' :: rest => some ([], rest)
  | c :: rest => (splitDouble? rest).map (fun (before, after) => (c :: before, after))
  | [] => none

def parse? (cs : List Char) : Option Ipv6 :=
  match splitDouble? cs with
  | some (before, after) => do
    let left ← side? false before
    let right ← side? true after
    if left.length + right.length ≤ 7 then
      some ⟨left ++ List.replicate (8 - left.length - right.length) 0 ++ right⟩
    else none
  | none => do
    let groups ← side? true cs
    if groups.length = 8 then some ⟨groups⟩ else none

def zeroRun (groups : List Nat) : Nat := (groups.takeWhile (· == 0)).length

def longestRun (groups : List Nat) : Nat × Nat :=
  (List.range groups.length).foldl (fun best i =>
    let run := zeroRun (groups.drop i)
    if best.2 < run then (i, run) else best) (0, 0)

def joinGroups (groups : List Nat) : String := ":".intercalate (groups.map Text.hexText)

def text (x : Ipv6) : String :=
  let (start, length) := longestRun x.groups
  if length < 2 then joinGroups x.groups
  else joinGroups (x.groups.take start) ++ "::" ++ joinGroups (x.groups.drop (start + length))

def mapped? (x : Ipv6) : Option Ipv4 :=
  match x.groups with
  | [0, 0, 0, 0, 0, 0xFFFF, high, low] => some (Ipv4.ofNat (high * 65536 + low))
  | _ => none

def mixedText (x : Ipv6) : String :=
  match x.mapped? with
  | some v4 => "::ffff:" ++ v4.text
  | none => x.text

end Ipv6

end Leaderboard.Net
