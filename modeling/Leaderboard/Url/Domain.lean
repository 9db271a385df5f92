import Leaderboard.Text.Blank
import Leaderboard.Text.Lowercase
import Leaderboard.Text.Split
import Leaderboard.Text.Width
import Leaderboard.Url.Punycode

set_option autoImplicit false

namespace Leaderboard.Url.Domain

def isForbidden (c : Char) : Bool :=
  c.toNat ≤ 0x20 || c.toNat == 0x7F || "%#/:<>?@[\\]^`\x7b|\x7d".toList.contains c

def isIgnored (c : Char) : Bool :=
  Text.inRanges [(0xAD, 0xAD), (0x200B, 0x200B), (0x2060, 0x2060), (0x2064, 0x2064),
    (0xFE00, 0xFE0F), (0xFEFF, 0xFEFF)] c

def isExcluded (c : Char) : Bool :=
  Text.isBlank c ||
  Text.inRanges [(0x80, 0x9F), (0x200E, 0x200F), (0x202A, 0x202E), (0x2061, 0x2063),
    (0x2065, 0x206F), (0xE000, 0xF8FF), (0xFDD0, 0xFDEF), (0xFFF0, 0xFFFF), (0xE0000, 0xE0FFF),
    (0xF0000, 0x10FFFF)] c

def mapAscii (c : Char) : Option (List Char) :=
  if isForbidden c then none else some [c.toLower]

-- Of the compatibility mapping this has lower case, wide forms and full stops, and labels are not
-- checked for the direction of their letters.
def mapChar (c : Char) : Option (List Char) :=
  let n := c.toNat
  if n < 128 then mapAscii c
  else if isIgnored c then some []
  else if n == 0x3002 || n == 0xFF61 then some ['.']
  else if 0xFF01 ≤ n && n ≤ 0xFF5E then mapAscii (Char.ofNat (n - 0xFEE0))
  else if isExcluded c then none
  else some [Text.lowerLetter c]

def isAscii (cs : List Char) : Bool := cs.all (fun c => c.toNat < 128)

def isLabel (cs : List Char) : Bool :=
  match cs with
  | [] => false
  | first :: _ => !isAscii cs && Text.charColumns first != 0 && cs.all (fun c =>
      mapChar c == some [c])

def asciiLabel? (cs : List Char) : Option (List Char) :=
  if cs.take 4 == "xn--".toList then
    match Punycode.decode? (cs.drop 4) with
    | some label => if isAscii cs && isLabel label then some cs else none
    | none => none
  else if isAscii cs then some cs
  else if isLabel cs then some ("xn--".toList ++ Punycode.encode cs)
  else none

def toAscii? (cs : List Char) : Option (List Char) := do
  let mapped ← cs.mapM mapChar
  let labels ← (Text.splitAll '.' mapped.flatten).mapM asciiLabel?
  return Text.joinWith '.' labels

end Leaderboard.Url.Domain
