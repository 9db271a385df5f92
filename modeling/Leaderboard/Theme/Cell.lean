import Leaderboard.Theme.Basic

set_option autoImplicit false

namespace Leaderboard

structure ThemeCell where
  current : Theme
  changes : Nat
deriving Repr, DecidableEq

namespace ThemeCell

def new (initial : Theme) : ThemeCell := ⟨initial, 0⟩

def set (c : ThemeCell) (theme : Theme) : ThemeCell :=
  if c.current = theme then c else ⟨theme, c.changes + 1⟩

def toggle (c : ThemeCell) : Theme × ThemeCell := (c.current.toggle, c.set c.current.toggle)

end ThemeCell

structure ThemeSubscriber where
  seen : Nat
deriving Repr, DecidableEq

namespace ThemeSubscriber

def subscribe (c : ThemeCell) : ThemeSubscriber := ⟨c.changes⟩

def hasChanged (s : ThemeSubscriber) (c : ThemeCell) : Bool := s.seen != c.changes

def read (_ : ThemeSubscriber) (c : ThemeCell) : Theme × ThemeSubscriber :=
  (c.current, ⟨c.changes⟩)

end ThemeSubscriber

end Leaderboard
