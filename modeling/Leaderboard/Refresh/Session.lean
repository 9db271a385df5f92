import Leaderboard.Refresh.Actor

set_option autoImplicit false

namespace Leaderboard.Refresh

structure ScriptedAnswer where
  result : Fetched
  delay : Nat

structure Outstanding where
  attempt : Nat
  result : Fetched
  due : Nat

structure Session where
  actor : Actor
  clock : Nat
  script : List ScriptedAnswer
  calls : Nat
  outstanding : List Outstanding

namespace Session

def exhausted : ScriptedAnswer := ⟨.error ⟨.fetch, "script exhausted"⟩, 0⟩

def spawn (plan : Plan) (initial : Option Dataset) (filter : String)
    (script : List ScriptedAnswer) : Session where
  actor := Actor.spawn plan ⟨0, ⟨0⟩⟩ initial filter
  clock := 0
  script := script
  calls := 0
  outstanding := []

def moment (s : Session) : Moment := ⟨s.clock, ⟨s.clock * 1000000⟩⟩

def snapshot (s : Session) : Snapshot := s.actor.published

def finished (s : Session) : Bool := s.actor.stopped

def send (s : Session) (command : Command) : Session :=
  { s with actor := s.actor.send command }

def unseen? (s : Session) : Option Nat :=
  s.actor.running.find? (fun n => !s.outstanding.any (fun o => o.attempt == n))

def takeUp (s : Session) (attempt : Nat) : Session :=
  let answer := s.script.headD exhausted
  { s with
    script := s.script.tail
    calls := s.calls + 1
    outstanding := ⟨attempt, answer.result, s.clock + answer.delay⟩ :: s.outstanding }

def ended? (s : Session) : Option Outstanding := s.outstanding.find? (fun o => o.due ≤ s.clock)

def after? (s : Session) (event : Event) : Option Session :=
  (s.actor.step? s.moment event).map (fun step => { s with actor := step.actor })

def conclude? (s : Session) (o : Outstanding) : Option Session :=
  (s.after? (.finish o.attempt o.result)).map (fun next =>
    { next with outstanding := s.outstanding.filter (fun p => p.attempt != o.attempt) })

def settleOnce? (s : Session) : Option Session :=
  (s.unseen?.map s.takeUp)
    |>.or (s.ended?.bind s.conclude?)
    |>.or (s.after? .deliver)
    |>.or (s.after? .handle)
    |>.or (s.after? .tick)

def settleWith : Nat → Session → Session
  | 0, s => s
  | fuel + 1, s =>
    match s.settleOnce? with
    | none => s
    | some next => settleWith fuel next

-- The commands and the tick that is due begin one fetch each, and a fetch takes three more steps.
def settle (s : Session) : Session := settleWith (4 * (s.actor.queue.length + 3)) s

def nextDue? (s : Session) (limit : Nat) : Option Nat :=
  if s.finished then none
  else
    let due := (s.outstanding.map (·.due)).foldl min s.actor.nextTick
    if due ≤ limit then some due else none

def advanceWith : Nat → Nat → Session → Session
  | 0, limit, s => { s with clock := limit }
  | fuel + 1, limit, s =>
    match s.nextDue? limit with
    | none => { s with clock := limit }
    | some due => advanceWith fuel limit (settle { s with clock := max due s.clock })

-- Ticks are one period apart, and each begins at most one fetch that ends once.
def advance (s : Session) (ms : Nat) : Session :=
  advanceWith (2 * (ms / max s.actor.plan.period 1 + 2)) (s.clock + ms) s

end Session

end Leaderboard.Refresh
