import Leaderboard.Command.Running
import Leaderboard.Refresh.Session
import Leaderboard.Watch.Input

set_option autoImplicit false

namespace Leaderboard.Watch

open Refresh (Fetched Session Snapshot)
open Report (Output)

structure Run where
  view : View
  session : Session
  reported : Reported

namespace Run

def «show» (r : Run) : Run × Output :=
  let (output, reported) := render r.view r.session.moment.date r.reported r.session.snapshot
  ({ r with reported := reported }, output)

def start (w : Command.Watching) : Run × Output :=
  ({ view := w.view
     session := .spawn w.plan none w.filter []
     reported := .nothing } : Run).show

def differs (a b : Snapshot) : Bool :=
  a.phase != b.phase || a.attempts != b.attempts || a.generation != b.generation ||
    a.filter != b.filter || a.online != b.online

def advance (r : Run) (fetched : Fetched) (ms : Nat) : Run × Output :=
  let answers := List.replicate (ms + r.session.actor.queue.length + 2) ⟨fetched, 0⟩
  let session := ({ r.session with script := answers } : Session).settle.advance ms
  let next := { r with session := session }
  if differs r.session.snapshot session.snapshot then next.show else (next, .empty)

def isDue (r : Run) (ms : Nat) : Bool :=
  !r.session.actor.queue.isEmpty || (r.session.nextDue? (r.session.clock + ms)).isSome

def hear (r : Run) (line : String) : Option Run :=
  match Input.ofLine line with
  | .quit => none
  | .retry => some { r with session := r.session.send .retry }
  | .filter text => some { r with session := r.session.send (.setFilter text) }

end Run

end Leaderboard.Watch
