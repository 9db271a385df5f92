import Leaderboard.Text.FormEncoding

set_option autoImplicit false

namespace Leaderboard.Url

inductive Part
  | userinfo
  | path
  | query
  | fragment
  | opaqueHost
deriving Repr, DecidableEq

def Part.marks : Part → List Char
  | userinfo => " \"<>`#?\x7b\x7d/:;=@[\\]^|".toList
  | path => " \"<>`#?\x7b\x7d".toList
  | query => " \"#<>'".toList
  | fragment => " \"<>`".toList
  | opaqueHost => []

def encodeChar (p : Part) (c : Char) : List Char :=
  if c.toNat < 0x20 || 0x7F ≤ c.toNat || p.marks.contains c then
    (Text.encode c.toString).flatMap Text.percentByte
  else [c]

def encodeText (p : Part) (cs : List Char) : List Char := cs.flatMap (encodeChar p)

end Leaderboard.Url
