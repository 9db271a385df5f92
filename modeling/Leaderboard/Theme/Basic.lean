import Leaderboard.Name
import Leaderboard.Text.Blank
import Leaderboard.Text.Case

set_option autoImplicit false

namespace Leaderboard

inductive Theme
  | light
  | dark
deriving Repr, DecidableEq

namespace Theme

def toggle : Theme → Theme
  | light => dark
  | dark => light

def name : Theme → String
  | light => "light"
  | dark => "dark"

@[simp] theorem toggle_toggle (t : Theme) : t.toggle.toggle = t := by
  cases t <;> rfl

def ofName (word : String) : Except UnknownName Theme :=
  let folded := Text.fold (Text.trim word)
  if folded == "light" then .ok light
  else if folded == "dark" then .ok dark
  else .error ⟨.theme, word⟩

end Theme

end Leaderboard
