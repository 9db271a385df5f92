import Leaderboard.Text.Printable

set_option autoImplicit false

namespace Leaderboard.Text

def hexText (n : Nat) : String := String.ofList (Nat.toDigits 16 n)

def quotedChar (c : Char) : String :=
  if c == '"' then "\\\""
  else if c == '\\' then "\\\\"
  else if c == '\n' then "\\n"
  else if c == '\r' then "\\r"
  else if c == '\t' then "\\t"
  else if c.toNat == 0 then "\\0"
  else if isPrintable c then String.ofList [c]
  else "\\u\x7b" ++ hexText c.toNat ++ "\x7d"

def quoted (text : String) : String :=
  "\"" ++ String.join (text.toList.map quotedChar) ++ "\""

end Leaderboard.Text
