import Leaderboard.Row.Basic
import Leaderboard.Decimal.Layout

set_option autoImplicit false

namespace Leaderboard.Report

def scoreText (showStderr : Bool) (s : Score) : String :=
  if showStderr && s.stderr != 0.0 then
    Decimal.plainText s.shownValue ++ " ± " ++ Decimal.plainText s.shownStderr
  else Decimal.plainText s.shownValue

def latencyText (ms : Float) : String := Decimal.plainText (Decimal.round2 ms) ++ " ms"

def percentageText (fraction : Float) : String := Decimal.oneDecimal (fraction * 100.0) ++ "%"

inductive TimeUnit
  | second
  | minute
  | hour
  | day
deriving Repr, DecidableEq

namespace TimeUnit

def seconds : TimeUnit → Nat
  | second => 1
  | minute => 60
  | hour => 3600
  | day => 86400

def letter : TimeUnit → Char
  | second => 's'
  | minute => 'm'
  | hour => 'h'
  | day => 'd'

end TimeUnit

structure DurationPart where
  count : Nat
  unit : TimeUnit
deriving Repr, DecidableEq

def durationParts (seconds : Nat) : List DurationPart :=
  if seconds < 60 then [⟨seconds, .second⟩]
  else if seconds < 3600 then [⟨seconds / 60, .minute⟩, ⟨seconds % 60, .second⟩]
  else if seconds < 86400 then [⟨seconds / 3600, .hour⟩, ⟨seconds % 3600 / 60, .minute⟩]
  else [⟨seconds / 86400, .day⟩, ⟨seconds % 86400 / 3600, .hour⟩]

def DurationPart.text (p : DurationPart) : String := toString p.count ++ p.unit.letter.toString

def durationText (seconds : Nat) : String :=
  " ".intercalate ((durationParts seconds).map DurationPart.text)

end Leaderboard.Report
