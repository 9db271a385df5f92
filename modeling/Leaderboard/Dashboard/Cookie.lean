import Leaderboard.Text.Split
import Leaderboard.Theme.Basic

set_option autoImplicit false

namespace Leaderboard.Dashboard

namespace Cookie

def themeName : String := "theme"

def pairs (header : String) : List (String × String) :=
  (Text.splitAll ';' header.toList).filterMap (fun part =>
    (Text.splitOnce? '=' part).map (fun (name, value) =>
      (String.ofList (Text.trimList name), String.ofList (Text.trimList value))))

-- The first cookie of the name counts, whatever its value is.
def theme? (headers : List String) : Option Theme :=
  match (headers.flatMap pairs).find? (fun pair => pair.1 == themeName) with
  | some (_, value) => (Theme.ofName value).toOption
  | none => none

def setTheme (t : Theme) : String :=
  themeName ++ "=" ++ t.name ++ "; Path=/; Max-Age=31536000; SameSite=Lax"

end Cookie

end Leaderboard.Dashboard
