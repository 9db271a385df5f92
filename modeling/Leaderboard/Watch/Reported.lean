import Leaderboard.Refresh.State

set_option autoImplicit false

namespace Leaderboard.Watch

open Refresh (Snapshot)

inductive Update
  | rows
  | failed (message : String)
deriving Repr, DecidableEq

-- Attempts and generations count from one.
structure Reported where
  generation : Nat
  filter : Option String
  failedAttempt : Nat
deriving Repr, DecidableEq

namespace Reported

def nothing : Reported := ⟨0, none, 0⟩

def isNewFailure (r : Reported) (s : Snapshot) : Bool :=
  s.lastOutcome == some .failed && s.attempts != r.failedAttempt

def hasNewRows (r : Reported) (s : Snapshot) : Bool :=
  s.isLoaded && (s.generation != r.generation || r.filter != some s.filter)

def next (r : Reported) (s : Snapshot) : Option Update × Reported :=
  if s.phase != .idle then (none, r)
  else if r.isNewFailure s then
    (some (.failed (s.error.getD "refresh failed")), { r with failedAttempt := s.attempts })
  else if r.hasNewRows s then
    (some .rows, { r with generation := s.generation, filter := some s.filter })
  else (none, r)

end Reported

end Leaderboard.Watch
