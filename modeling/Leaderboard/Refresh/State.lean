import Leaderboard.Failure
import Leaderboard.Refresh.Timestamp
import Leaderboard.Row.Basic

set_option autoImplicit false

namespace Leaderboard.Refresh

inductive Phase
  | idle
  | fetching
deriving Repr, DecidableEq

def Phase.name : Phase → String
  | idle => "idle"
  | fetching => "fetching"

inductive Outcome
  | succeeded
  | failed
deriving Repr, DecidableEq

def Outcome.name : Outcome → String
  | succeeded => "succeeded"
  | failed => "failed"

abbrev Fetched := Except Failure Dataset

-- Generation and attempts are counters of 64 bits, whose overflow is out of reach.
structure Snapshot where
  phase : Phase
  lastOutcome : Option Outcome
  dataset : Option Dataset
  filter : String
  rows : List Row
  error : Option String
  lastSuccess : Option Timestamp
  lastAttempt : Option Timestamp
  generation : Nat
  attempts : Nat
  online : Bool
deriving DecidableEq

namespace Snapshot

def isError (s : Snapshot) : Bool := s.error.isSome

def isLoaded (s : Snapshot) : Bool := s.dataset.isSome

def nodeCount (s : Snapshot) : Nat := (s.dataset.map SortedMap.size).getD 0

end Snapshot

structure State where
  snapshot : Snapshot
deriving DecidableEq

namespace State

def rowsOf (dataset : Option Dataset) (filter : String) : List Row :=
  match dataset with
  | some data => project data filter
  | none => []

def start (now : Timestamp) (initial : Option Dataset) (filter : String) : State where
  snapshot :=
    { phase := .idle
      lastOutcome := none
      dataset := initial
      filter := filter
      rows := rowsOf initial filter
      error := none
      lastSuccess := initial.map (fun _ => now)
      lastAttempt := none
      generation := if initial.isSome then 1 else 0
      attempts := 0
      online := true }

def phase (s : State) : Phase := s.snapshot.phase

def isFetching (s : State) : Bool := s.phase == .fetching

def beginFetch? (now : Timestamp) (s : State) : Option State :=
  if s.isFetching then none
  else
    some ⟨{ s.snapshot with
      phase := .fetching
      attempts := s.snapshot.attempts + 1
      lastAttempt := some now }⟩

def completeFetch (now : Timestamp) (result : Fetched) (s : State) : State :=
  match result with
  | .ok dataset =>
    ⟨{ s.snapshot with
      phase := .idle
      dataset := some dataset
      generation := s.snapshot.generation + 1
      lastOutcome := some .succeeded
      lastSuccess := some now
      error := none
      rows := rowsOf (some dataset) s.snapshot.filter }⟩
  | .error failure =>
    ⟨{ s.snapshot with
      phase := .idle
      lastOutcome := some .failed
      error := some failure.message }⟩

def setFilter? (filter : String) (s : State) : Option State :=
  if filter == s.snapshot.filter then none
  else
    some ⟨{ s.snapshot with filter := filter, rows := rowsOf s.snapshot.dataset filter }⟩

def comesBack (online : Bool) (s : State) : Bool := online && !s.snapshot.online

def setOnline (online : Bool) (s : State) : State := ⟨{ s.snapshot with online := online }⟩

end State

end Leaderboard.Refresh
