import Leaderboard.Failure
import Leaderboard.Refresh.Timestamp

set_option autoImplicit false

namespace Leaderboard.Refresh

structure Span where
  nanoseconds : Nat
deriving Repr, DecidableEq

namespace Span

def ofMilliseconds (ms : Nat) : Span := ⟨ms * 1000000⟩

def seconds (s : Span) : Nat := s.nanoseconds / Timestamp.perSecond

def trimmedFraction (nanoseconds : Nat) : String :=
  String.ofList
    ((Timestamp.padded 9 nanoseconds).toList.reverse.dropWhile (· == '0')).reverse

def text (s : Span) : String :=
  let part := s.nanoseconds % Timestamp.perSecond
  toString s.seconds ++ (if part == 0 then "" else "." ++ trimmedFraction part) ++ "s"

end Span

def longestPeriod : Span := Span.ofMilliseconds 86400000

def checkPeriod (period : Span) : Except Failure Unit :=
  if period.nanoseconds == 0 then .error ⟨.configuration, "Refresh interval must be > 0"⟩
  else if longestPeriod.nanoseconds < period.nanoseconds then
    .error ⟨.configuration, "Refresh interval must be at most " ++ longestPeriod.text ++
      ", got " ++ period.text⟩
  else .ok ()

end Leaderboard.Refresh
