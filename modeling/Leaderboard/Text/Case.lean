set_option autoImplicit false

namespace Leaderboard.Text

def lowerChar (c : Char) : List Char :=
  if c.toNat == 0x212A then ['k']
  else if c.toNat == 0x130 then ['i', Char.ofNat 0x307]
  else [c.toLower]

-- Beyond ASCII only the Kelvin sign and the dotted capital I have an ASCII letter in lower case.
def fold (text : String) : String := String.ofList (text.toList.flatMap lowerChar)

def lowerAscii (text : String) : String := String.ofList (text.toList.map Char.toLower)

end Leaderboard.Text
