import Leaderboard.Refresh.State

set_option autoImplicit false

namespace Leaderboard.Refresh

inductive Command
  | setFilter (text : String)
  | retry
  | connectivity (online : Bool)
  | shutdown
deriving Repr, DecidableEq

structure Plan where
  period : Nat
  refetchOnReconnect : Bool
deriving Repr, DecidableEq

structure Actor where
  plan : Plan
  state : State
  published : Snapshot
  -- sent and not yet handled, oldest first
  queue : List Command
  running : List Nat
  -- handed over and not yet applied, oldest first
  waiting : List (Nat × Fetched)
  nextTick : Nat
  stopped : Bool

-- There is always a handle left: that the loop ends with the last of them is left out.
inductive Event
  | tick
  | handle
  | finish (attempt : Nat) (result : Fetched)
  | deliver
  | send (command : Command)

-- In milliseconds of the loop's clock, and as a date.
structure Moment where
  clock : Nat
  date : Timestamp
deriving Repr, DecidableEq

structure Step where
  actor : Actor
  published : List Snapshot

def Step.andThen (s : Step) (next : Actor → Step) : Step :=
  let after := next s.actor
  ⟨after.actor, s.published ++ after.published⟩

namespace Actor

def capacity : Nat := 1

-- How late a tick may be, in milliseconds, without moving the ticks after it.
def tolerance : Nat := 5

-- With a dataset to begin with the first tick is one period away, without one it is due at once.
def spawn (plan : Plan) (now : Moment) (initial : Option Dataset) (filter : String) : Actor :=
  let state := State.start now.date initial filter
  { plan := plan
    state := state
    published := state.snapshot
    queue := []
    running := []
    waiting := []
    nextTick := if initial.isSome then now.clock + plan.period else now.clock
    stopped := false }

def publish (a : Actor) (state : State) : Step :=
  ⟨{ a with state := state, published := state.snapshot }, [state.snapshot]⟩

def startFetch (now : Moment) (a : Actor) : Step :=
  match a.state.beginFetch? now.date with
  | none => ⟨a, []⟩
  | some state => publish { a with running := a.running ++ [state.snapshot.attempts] } state

def tickAfter (a : Actor) (now : Moment) : Nat :=
  if a.nextTick + tolerance < now.clock then now.clock + a.plan.period
  else a.nextTick + a.plan.period

def obey (now : Moment) (a : Actor) : Command → Step
  | .setFilter text =>
    match a.state.setFilter? text with
    | none => ⟨a, []⟩
    | some state => a.publish state
  | .retry => a.startFetch now
  | .connectivity online =>
    let told := a.publish (a.state.setOnline online)
    if a.state.comesBack online && a.plan.refetchOnReconnect then
      told.andThen (startFetch now)
    else told
  | .shutdown => ⟨{ a with stopped := true }, []⟩

def send (a : Actor) (command : Command) : Actor :=
  if a.stopped then a else { a with queue := a.queue ++ [command] }

-- Commands sent to a loop that has stopped and fetches still at work end without effect.
def step? (now : Moment) (a : Actor) : Event → Option Step
  | .tick =>
    if a.stopped || now.clock < a.nextTick then none
    else some (startFetch now { a with nextTick := a.tickAfter now })
  | .handle =>
    if a.stopped then none
    else
      match a.queue with
      | [] => none
      | command :: rest => some (obey now { a with queue := rest } command)
  | .finish attempt result =>
    if !a.running.contains attempt then none
    else
      let rest := { a with running := a.running.erase attempt }
      if a.stopped then some ⟨rest, []⟩
      else if a.waiting.length < capacity then
        some ⟨{ rest with waiting := a.waiting ++ [(attempt, result)] }, []⟩
      else none
  | .deliver =>
    if a.stopped then none
    else
      match a.waiting with
      | [] => none
      | (_, result) :: rest =>
        some (publish { a with waiting := rest } (a.state.completeFetch now.date result))
  | .send command =>
    some ⟨a.send command, []⟩

end Actor

end Leaderboard.Refresh
