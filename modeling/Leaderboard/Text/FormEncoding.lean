import Leaderboard.Text.Split
import Leaderboard.Text.Utf8

set_option autoImplicit false

namespace Leaderboard.Text

def isPlainByte (b : UInt8) : Bool :=
  let n := b.toNat
  (0x30 ≤ n && n ≤ 0x39) || (0x41 ≤ n && n ≤ 0x5A) || (0x61 ≤ n && n ≤ 0x7A) ||
    n == 0x2A || n == 0x2D || n == 0x2E || n == 0x5F

def percentByte (b : UInt8) : List Char :=
  ['%', (Nat.digitChar (b.toNat / 16)).toUpper, (Nat.digitChar (b.toNat % 16)).toUpper]

def encodeByte (b : UInt8) : List Char :=
  if isPlainByte b then [Char.ofNat b.toNat]
  else if b == 0x20 then ['+']
  else percentByte b

def formEncode (text : String) : String := String.ofList ((encode text).flatMap encodeByte)

def hexValue? (b : UInt8) : Option UInt8 :=
  if 0x30 ≤ b && b ≤ 0x39 then some (b - 0x30)
  else if 0x41 ≤ b && b ≤ 0x46 then some (b - 0x41 + 10)
  else if 0x61 ≤ b && b ≤ 0x66 then some (b - 0x61 + 10)
  else none

def percentDecode : List UInt8 → List UInt8
  | [] => []
  | b :: rest =>
    if b == 0x25 then
      match rest with
      | high :: low :: more =>
        match hexValue? high, hexValue? low with
        | some h, some l => (h * 16 + l) :: percentDecode more
        | _, _ => b :: percentDecode (high :: low :: more)
      | few => b :: percentDecode few
    else b :: percentDecode rest

def plusToSpace (b : UInt8) : UInt8 := if b == 0x2B then 0x20 else b

def formDecode (cs : List Char) : String :=
  String.ofList (decodeLenient (percentDecode ((encode (String.ofList cs)).map plusToSpace)))

def formPair (cs : List Char) : String × String :=
  match splitOnce? '=' cs with
  | some (name, value) => (formDecode name, formDecode value)
  | none => (formDecode cs, "")

def formPairs (query : String) : List (String × String) :=
  ((splitAll '&' query.toList).filter (fun part => !part.isEmpty)).map formPair

end Leaderboard.Text
