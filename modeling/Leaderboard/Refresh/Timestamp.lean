import Leaderboard.Decimal.Layout

set_option autoImplicit false

namespace Leaderboard.Refresh

structure Timestamp where
  nanoseconds : Nat
deriving Repr, DecidableEq

namespace Timestamp

def perSecond : Nat := 1000000000

def seconds (t : Timestamp) : Nat := t.nanoseconds / perSecond

def secondsSince (now earlier : Timestamp) : Nat :=
  (now.nanoseconds - earlier.nanoseconds) / perSecond

-- By eras of 400 years that begin in March.
def civil (days : Nat) : Nat × Nat × Nat :=
  let shifted := days + 719468
  let era := shifted / 146097
  let dayOfEra := shifted % 146097
  let yearOfEra := (dayOfEra - dayOfEra / 1460 + dayOfEra / 36524 - dayOfEra / 146096) / 365
  let dayOfYear := dayOfEra - (365 * yearOfEra + yearOfEra / 4 - yearOfEra / 100)
  let monthFromMarch := (5 * dayOfYear + 2) / 153
  let day := dayOfYear - (153 * monthFromMarch + 2) / 5 + 1
  let month := if monthFromMarch < 10 then monthFromMarch + 3 else monthFromMarch - 9
  (yearOfEra + era * 400 + (if month ≤ 2 then 1 else 0), month, day)

def padded (width n : Nat) : String :=
  let digits := toString n
  Decimal.zeros (width - digits.length) ++ digits

def dateText (t : Timestamp) : String :=
  let (year, month, day) := civil (t.seconds / 86400)
  padded 4 year ++ "-" ++ padded 2 month ++ "-" ++ padded 2 day

def clockText (t : Timestamp) : String :=
  let s := t.seconds % 86400
  padded 2 (s / 3600) ++ ":" ++ padded 2 (s % 3600 / 60) ++ ":" ++ padded 2 (s % 60)

def readable (t : Timestamp) : String := t.dateText ++ " " ++ t.clockText ++ " UTC"

def fractionText (t : Timestamp) : String :=
  let n := t.nanoseconds % perSecond
  if n == 0 then ""
  else if n % 1000000 == 0 then "." ++ padded 3 (n / 1000000)
  else if n % 1000 == 0 then "." ++ padded 6 (n / 1000)
  else "." ++ padded 9 n

def text (t : Timestamp) : String := t.dateText ++ "T" ++ t.clockText ++ t.fractionText ++ "Z"

end Timestamp

end Leaderboard.Refresh
