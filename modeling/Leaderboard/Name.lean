set_option autoImplicit false

namespace Leaderboard

inductive NameKind
  | task
  | sortKey
  | sortOrder
  | theme
  | tab
deriving Repr, DecidableEq

def NameKind.label : NameKind → String
  | task => "task"
  | sortKey => "sort key"
  | sortOrder => "sort order"
  | theme => "theme"
  | tab => "tab"

structure UnknownName where
  kind : NameKind
  word : String
deriving Repr, DecidableEq

def UnknownName.message (e : UnknownName) : String := "Unknown " ++ e.kind.label ++ ": " ++ e.word

end Leaderboard
