import Leaderboard.Text.Blank

set_option autoImplicit false

namespace Leaderboard.Watch

inductive Input
  | filter (text : String)
  | retry
  | quit
deriving Repr, DecidableEq

-- Commands may have white space around them; a filter text is taken as typed.
def Input.ofLine (line : String) : Input :=
  let word := Text.trim line
  if word == ":r" || word == ":retry" then .retry
  else if word == ":q" || word == ":quit" then .quit
  else .filter line

end Leaderboard.Watch
