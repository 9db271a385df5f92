import Leaderboard.Dashboard.Router
import Leaderboard.Refresh.Session
import Leaderboard.Theme.Cell

set_option autoImplicit false

namespace Leaderboard.Dashboard

open Refresh (Command Session Span)

structure Site where
  session : Session
  theme : ThemeCell
  display : DisplaySettings

namespace Site

def context (s : Site) : Context where
  snapshot := s.session.snapshot
  theme := s.theme.current
  display := s.display
  period := Span.ofMilliseconds s.session.actor.plan.period
  refetchOnReconnect := s.session.actor.plan.refetchOnReconnect

def command (s : Site) (c : Command) : Site := { s with session := (s.session.send c).settle }

def request (s : Site) (r : Request) : Response × Site :=
  match s.context.respond r with
  | (response, none) => (response, s)
  | (response, some c) => (response, s.command c)

def advance (s : Site) (ms : Nat) : Site := { s with session := s.session.advance ms }

def setTheme (s : Site) (t : Theme) : Site := { s with theme := s.theme.set t }

end Site

end Leaderboard.Dashboard
