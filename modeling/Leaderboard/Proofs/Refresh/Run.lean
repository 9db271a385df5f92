import Leaderboard.Proofs.Refresh.History
import Leaderboard.Refresh.Actor

set_option autoImplicit false

namespace Leaderboard.Refresh

namespace Actor

inductive Taken (now : Moment) (a : Actor) : Event → Step → Prop
  | tick (alive : a.stopped = false) (due : a.nextTick ≤ now.clock) :
    Taken now a .tick (startFetch now { a with nextTick := a.tickAfter now })
  | handle (alive : a.stopped = false) (command : Command) (rest : List Command)
    (queue : a.queue = command :: rest) :
    Taken now a .handle (obey now { a with queue := rest } command)
  | finish (alive : a.stopped = false) (attempt : Nat) (result : Fetched)
    (running : attempt ∈ a.running) (room : a.waiting.length < capacity) :
    Taken now a (.finish attempt result)
      ⟨{ a with
        running := a.running.erase attempt
        waiting := a.waiting ++ [(attempt, result)] }, []⟩
  | lose (stopped : a.stopped = true) (attempt : Nat) (result : Fetched)
    (running : attempt ∈ a.running) :
    Taken now a (.finish attempt result) ⟨{ a with running := a.running.erase attempt }, []⟩
  | deliver (alive : a.stopped = false) (attempt : Nat) (result : Fetched)
    (rest : List (Nat × Fetched)) (waiting : a.waiting = (attempt, result) :: rest) :
    Taken now a .deliver
      (publish { a with waiting := rest } (a.state.completeFetch now.date result))
  | send (command : Command) : Taken now a (.send command) ⟨a.send command, []⟩

theorem step?_eq_some_iff (now : Moment) (a : Actor) (event : Event) (step : Step) :
    a.step? now event = some step ↔ Taken now a event step := by
  constructor
  · intro taken
    cases event with
    | tick =>
      simp only [step?] at taken
      split at taken
      · cases taken
      next quiet =>
        cases taken
        have quiet : a.stopped = false ∧ a.nextTick ≤ now.clock := by simpa using quiet
        exact .tick quiet.1 quiet.2
    | handle =>
      simp only [step?] at taken
      split at taken
      · cases taken
      next alive =>
        split at taken
        · cases taken
        next command rest queue =>
          cases taken
          exact .handle (by simpa using alive) command rest queue
    | finish attempt result =>
      simp only [step?] at taken
      split at taken
      · cases taken
      next running =>
        have running : attempt ∈ a.running := by simpa using running
        split at taken
        next stopped =>
          cases taken
          exact .lose stopped attempt result running
        next alive =>
          split at taken
          next room =>
            cases taken
            exact .finish (by simpa using alive) attempt result running room
          · cases taken
    | deliver =>
      simp only [step?] at taken
      split at taken
      · cases taken
      next alive =>
        split at taken
        · cases taken
        next attempt result rest waiting =>
          cases taken
          exact .deliver (by simpa using alive) attempt result rest waiting
    | send command =>
      cases taken
      exact .send command
  · intro taken
    cases taken with
    | tick alive due => simp [step?, alive, due]
    | handle alive command rest queue => simp [step?, alive, queue]
    | finish alive attempt result running room => simp [step?, alive, running, room]
    | lose stopped attempt result running => simp [step?, stopped, running]
    | deliver alive attempt result rest waiting => simp [step?, alive, waiting]
    | send command => rfl

def commandOperations (plan : Plan) (s : State) (now : Moment) : Command → History
  | .setFilter text => [(now.date, .setFilter text)]
  | .retry => [(now.date, .beginFetch)]
  | .connectivity online =>
    (now.date, .setOnline online) ::
      if s.comesBack online && plan.refetchOnReconnect then [(now.date, .beginFetch)] else []
  | .shutdown => []

def operations (a : Actor) (now : Moment) : Event → History
  | .tick => [(now.date, .beginFetch)]
  | .handle => (a.queue.head?.map (commandOperations a.plan a.state now)).getD []
  | .deliver => (a.waiting.head?.map (fun entry => [(now.date, .completeFetch entry.2)])).getD []
  | .finish _ _ | .send _ => []

end Actor

-- Operations are done and some states on the way published, so that observers see the last one.
structure Step.Follows (state : State) (seen : Snapshot) (ops : History) (s : Step) : Prop where
  state_eq : s.actor.state = state.afterAll ops
  shown : s.published.Sublist ((state.course ops).map State.snapshot)
  latest : s.actor.published = s.published.getLast?.getD seen
  current : seen = state.snapshot → s.actor.published = s.actor.state.snapshot

namespace Step.Follows

theorem quiet (a : Actor) {ops : History} (same : a.state.afterAll ops = a.state) :
    Follows a.state a.published ops ⟨a, []⟩ where
  state_eq := same.symm
  shown := List.nil_sublist _
  latest := rfl
  current := id

theorem publish (a : Actor) (now : Timestamp) (op : Operation) :
    Follows a.state a.published [(now, op)] (a.publish (a.state.after now op)) where
  state_eq := rfl
  shown := List.Sublist.refl _
  latest := rfl
  current := fun _ => rfl

theorem andThen {state : State} {seen : Snapshot} {first second : History} {s : Step}
    {next : Actor → Step} (one : Follows state seen first s)
    (two : Follows s.actor.state s.actor.published second (next s.actor)) :
    Follows state seen (first ++ second) (s.andThen next) where
  state_eq := by
    rw [State.afterAll_append, ← one.state_eq]
    exact two.state_eq
  shown := by
    rw [State.course_append, List.map_append, ← one.state_eq]
    exact one.shown.append two.shown
  latest := by
    change (next s.actor).actor.published =
      (s.published ++ (next s.actor).published).getLast?.getD seen
    rw [two.latest, one.latest, List.getLast?_append]
    cases (next s.actor).published.getLast? <;> rfl
  -- What is current after the first step is what the second step starts from.
  current := fun same => two.current (one.current same)

end Step.Follows

namespace Actor

open Step (Follows)

variable (now : Moment) (a : Actor)

theorem startFetch_fetching (fetching : a.state.isFetching = true) :
    startFetch now a = ⟨a, []⟩ := by
  simp [startFetch, State.beginFetch?, fetching]

theorem startFetch_idle (idle : a.state.isFetching = false) :
    startFetch now a =
      publish { a with running := a.running ++ [a.state.snapshot.attempts + 1] }
        (a.state.after now.date .beginFetch) := by
  simp [startFetch, State.after, State.beginFetch?, idle]

theorem startFetch_isFetching : (startFetch now a).actor.state.isFetching = true := by
  by_cases fetching : a.state.isFetching = true
  · rw [startFetch_fetching now a fetching]
    exact fetching
  · have idle := Bool.eq_false_iff.2 fetching
    rw [startFetch_idle now a idle]
    simp only [publish, State.after_beginFetch, idle, Bool.false_eq_true, if_false]
    rfl

theorem startFetch_stopped : (startFetch now a).actor.stopped = a.stopped := by
  by_cases fetching : a.state.isFetching = true
  · rw [startFetch_fetching now a fetching]
  · rw [startFetch_idle now a (Bool.eq_false_iff.2 fetching)]
    rfl

theorem startFetch_follows :
    Follows a.state a.published [(now.date, .beginFetch)] (startFetch now a) := by
  cases fetching : a.state.isFetching with
  | true =>
    rw [startFetch_fetching now a fetching]
    apply Follows.quiet
    change a.state.after now.date .beginFetch = a.state
    rw [State.after_beginFetch, if_pos fetching]
  | false =>
    rw [startFetch_idle now a fetching]
    exact Follows.publish { a with running := a.running ++ [a.state.snapshot.attempts + 1] }
      now.date .beginFetch

theorem obey_setFilter (text : String) :
    obey now a (.setFilter text) =
      if text = a.state.snapshot.filter then ⟨a, []⟩
      else a.publish (a.state.after now.date (.setFilter text)) := by
  by_cases same : text = a.state.snapshot.filter <;>
    simp [obey, State.after, State.setFilter?, same]

theorem obey_follows (command : Command) :
    Follows a.state a.published (commandOperations a.plan a.state now command)
      (obey now a command) := by
  cases command with
  | setFilter text =>
    rw [obey_setFilter]
    split
    next same =>
      -- Nothing is published, so nothing may have changed.
      apply Follows.quiet
      change a.state.after now.date (.setFilter text) = a.state
      rw [State.after_setFilter, if_pos same]
    next => exact Follows.publish a now.date (.setFilter text)
  | retry => exact startFetch_follows now a
  | connectivity online =>
    have told := Follows.publish a now.date (.setOnline online)
    simp only [obey, commandOperations]
    split
    next => exact told.andThen (startFetch_follows now _)
    next => exact told
  | shutdown => exact Follows.quiet { a with stopped := true } rfl

theorem obey_stopped {command : Command} (other : command ≠ .shutdown) :
    (obey now a command).actor.stopped = a.stopped := by
  cases command with
  | setFilter text =>
    rw [obey_setFilter]
    split <;> rfl
  | retry => exact startFetch_stopped now a
  | connectivity online =>
    simp only [obey]
    split
    next => exact startFetch_stopped now (a.publish (a.state.setOnline online)).actor
    next => rfl
  | shutdown => exact absurd rfl other

theorem Taken.follows {now : Moment} {a : Actor} {event : Event} {step : Step}
    (taken : Taken now a event step) :
    Follows a.state a.published (a.operations now event) step := by
  cases taken with
  | tick => exact startFetch_follows now { a with nextTick := a.tickAfter now }
  | handle _ command rest queue =>
    simp only [operations, queue]
    exact obey_follows now { a with queue := rest } command
  | finish _ attempt result =>
    exact Follows.quiet
      { a with
        running := a.running.erase attempt
        waiting := a.waiting ++ [(attempt, result)] } rfl
  | lose _ attempt => exact Follows.quiet { a with running := a.running.erase attempt } rfl
  | deliver _ attempt result rest waiting =>
    simp only [operations, waiting]
    exact Follows.publish { a with waiting := rest } now.date (.completeFetch result)
  | send command =>
    unfold Actor.send
    split
    · exact Follows.quiet a rfl
    · exact Follows.quiet { a with queue := a.queue ++ [command] } rfl

theorem step?_follows {now : Moment} {a : Actor} {event : Event} {step : Step}
    (taken : a.step? now event = some step) :
    Follows a.state a.published (a.operations now event) step :=
  ((step?_eq_some_iff now a event step).1 taken).follows

structure SameAgenda (a b : Actor) : Prop where
  plan : b.plan = a.plan
  queue : b.queue = a.queue
  nextTick : b.nextTick = a.nextTick

theorem startFetch_agenda : SameAgenda a (startFetch now a).actor := by
  by_cases fetching : a.state.isFetching = true
  · rw [startFetch_fetching now a fetching]
    exact ⟨rfl, rfl, rfl⟩
  · rw [startFetch_idle now a (Bool.eq_false_iff.2 fetching)]
    exact ⟨rfl, rfl, rfl⟩

theorem obey_agenda (command : Command) : SameAgenda a (obey now a command).actor := by
  cases command with
  | setFilter text =>
    rw [obey_setFilter]
    split <;> exact ⟨rfl, rfl, rfl⟩
  | retry => exact startFetch_agenda now a
  | connectivity online =>
    simp only [obey]
    split
    next =>
      obtain ⟨plan, queue, nextTick⟩ :=
        startFetch_agenda now (a.publish (a.state.setOnline online)).actor
      exact ⟨plan, queue, nextTick⟩
    next => exact ⟨rfl, rfl, rfl⟩
  | shutdown => exact ⟨rfl, rfl, rfl⟩

end Actor

structure Happening where
  before : Actor
  now : Moment
  event : Event
  step : Step

def Happening.operations (h : Happening) : History := h.before.operations h.now h.event

def Actor.play? (a : Actor) : List (Moment × Event) → Option (List Happening × Actor)
  | [] => some ([], a)
  | (now, event) :: rest => do
    let step ← a.step? now event
    let (later, last) ← step.actor.play? rest
    return (⟨a, now, event, step⟩ :: later, last)

inductive Run (start : Actor) : List Happening → Actor → Prop
  | start : Run start [] start
  | next {past : List Happening} {a : Actor} (run : Run start past a) {now : Moment} {event : Event}
    {step : Step} (taken : a.step? now event = some step) :
    Run start (past ++ [⟨a, now, event, step⟩]) step.actor

namespace Run

variable {start a : Actor} {past : List Happening}

def history (past : List Happening) : History := past.flatMap Happening.operations

def shown (start : Actor) (past : List Happening) : List Snapshot :=
  start.published :: past.flatMap (fun h => h.step.published)

theorem play (run : Run start past a) {events : List (Moment × Event)} {later : List Happening}
    {last : Actor} (played : a.play? events = some (later, last)) :
    Run start (past ++ later) last := by
  -- Runs grow at their end and events are taken from the front, so the past grows in the induction.
  induction events generalizing past a later with
  | nil =>
    cases played
    rwa [List.append_nil]
  | cons first rest ih =>
    obtain ⟨now, event⟩ := first
    obtain ⟨step, taken, played⟩ := Option.bind_eq_some_iff.1 played
    obtain ⟨⟨others, _⟩, played, same⟩ := Option.bind_eq_some_iff.1 played
    cases same
    simpa using ih (run.next taken) played

theorem append {later : List Happening} {b : Actor} (run : Run start past a) (on : Run a later b) :
    Run start (past ++ later) b := by
  induction on with
  | start => rwa [List.append_nil]
  | next on taken ih =>
    rw [← List.append_assoc]
    exact ih.next taken

theorem split (run : Run start past a) {done rest : List Happening} {h : Happening}
    (whole : past = done ++ h :: rest) :
    Run start done h.before ∧ h.before.step? h.now h.event = some h.step := by
  induction run generalizing rest with
  | start => simp at whole
  | @next earlier a run now event step taken ih =>
    rcases List.eq_nil_or_concat rest with last | ⟨between, x, last⟩
    · rw [last] at whole
      obtain ⟨same, only⟩ := List.append_inj' whole rfl
      obtain rfl : _ = h := List.singleton_inj.1 only
      exact ⟨same ▸ run, taken⟩
    · rw [last, List.concat_eq_append, ← List.cons_append, ← List.append_assoc] at whole
      exact ih (List.append_inj' whole rfl).1

theorem split_mem (run : Run start past a) {h : Happening} (member : h ∈ past) :
    ∃ done, Run start done h.before ∧ h.before.step? h.now h.event = some h.step := by
  obtain ⟨done, rest, whole⟩ := List.append_of_mem member
  exact ⟨done, run.split whole⟩

theorem state_eq (run : Run start past a) : a.state = start.state.afterAll (history past) := by
  induction run with
  | start => rfl
  | next run taken ih =>
    rw [(Actor.step?_follows taken).state_eq, ih, ← State.afterAll_append]
    simp [history, Happening.operations]

theorem shown_sublist (run : Run start past a) :
    (past.flatMap (fun h => h.step.published)).Sublist
      ((start.state.course (history past)).map State.snapshot) := by
  induction run with
  | start => exact List.nil_sublist _
  | next run taken ih =>
    have longer := ih.append (Actor.step?_follows taken).shown
    rw [run.state_eq, ← List.map_append, ← State.course_append] at longer
    simpa [history, Happening.operations] using longer

theorem latest (run : Run start past a) : (shown start past).getLast? = some a.published := by
  induction run with
  | start => rfl
  | next run taken ih =>
    rw [shown, List.flatMap_append, ← List.cons_append, List.getLast?_append, ← shown, ih,
      (Actor.step?_follows taken).latest]
    simp

theorem current (run : Run start past a) (first : start.published = start.state.snapshot) :
    a.published = a.state.snapshot := by
  induction run with
  | start => exact first
  | next run taken ih => exact (Actor.step?_follows taken).current ih

end Run

end Leaderboard.Refresh
