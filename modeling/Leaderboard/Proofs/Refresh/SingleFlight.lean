import Leaderboard.Proofs.Refresh.Run

set_option autoImplicit false

namespace Leaderboard.Refresh

namespace Happening

variable (h : Happening)

def isTrigger : Bool :=
  match h.event with
  | .tick => true
  | .handle =>
    match h.before.queue.head? with
    | some .retry => true
    | some (.connectivity online) =>
      online && !h.before.state.snapshot.online && h.before.plan.refetchOnReconnect
    | _ => false
  | _ => false

def begins : Bool := h.isTrigger && !h.before.state.isFetching

def started : List Nat := h.step.actor.running.filter (fun n => !h.before.running.contains n)

def handedOver : List (Nat × Fetched) :=
  match h.event with
  | .finish attempt result => [(attempt, result)]
  | _ => []

def applied : List (Nat × Fetched) :=
  match h.event with
  | .deliver => h.before.waiting.take 1
  | _ => []

theorem results_operations : h.operations.results = h.applied.map Prod.snd := by
  obtain ⟨a, now, event, step⟩ := h
  cases event with
  | tick => rfl
  | handle =>
    cases queue : a.queue with
    | nil => simp [operations, Actor.operations, queue, applied, History.results]
    | cons command rest =>
      simp only [operations, Actor.operations, queue, applied, List.map_nil]
      cases command with
      | setFilter | retry | shutdown => rfl
      | connectivity online =>
        simp only [List.head?_cons, Option.map_some, Option.getD_some, Actor.commandOperations]
        split <;> rfl
  | finish => rfl
  | deliver =>
    cases waiting : a.waiting <;>
      simp [operations, Actor.operations, waiting, applied, History.results, Operation.result?]
  | send => rfl

inductive Flight : Prop
  | quiet (running : h.step.actor.running = h.before.running)
    (waiting : h.step.actor.waiting = h.before.waiting)
    (phase : h.step.actor.state.isFetching = h.before.state.isFetching)
    (attempts : h.step.actor.state.snapshot.attempts = h.before.state.snapshot.attempts)
    (handed : h.handedOver = []) (applied : h.applied = []) (refused : h.begins = false)
  | begun (running : h.step.actor.running =
      h.before.running ++ [h.before.state.snapshot.attempts + 1])
    (waiting : h.step.actor.waiting = h.before.waiting)
    (idle : h.before.state.isFetching = false) (phase : h.step.actor.state.isFetching = true)
    (attempts : h.step.actor.state.snapshot.attempts = h.before.state.snapshot.attempts + 1)
    (handed : h.handedOver = []) (applied : h.applied = []) (begins : h.begins = true)
  | landed (attempt : Nat) (result : Fetched) (working : attempt ∈ h.before.running)
    (running : h.step.actor.running = h.before.running.erase attempt)
    (waiting : h.step.actor.waiting = h.before.waiting ++ [(attempt, result)])
    (state : h.step.actor.state = h.before.state)
    (handed : h.handedOver = [(attempt, result)]) (applied : h.applied = [])
    (refused : h.begins = false)
  | applied (entry : Nat × Fetched)
    (waiting : h.before.waiting = entry :: h.step.actor.waiting)
    (running : h.step.actor.running = h.before.running)
    (phase : h.step.actor.state.isFetching = false)
    (attempts : h.step.actor.state.snapshot.attempts = h.before.state.snapshot.attempts)
    (handed : h.handedOver = []) (applied : h.applied = [entry]) (refused : h.begins = false)

-- There are three places where a fetch can be begun; `b` is the loop just before.
theorem flight_of_startFetch (b : Actor) (same : h.step.actor = (Actor.startFetch h.now b).actor)
    (running : b.running = h.before.running) (waiting : b.waiting = h.before.waiting)
    (phase : b.state.isFetching = h.before.state.isFetching)
    (attempts : b.state.snapshot.attempts = h.before.state.snapshot.attempts)
    (handed : h.handedOver = []) (applied : h.applied = []) (trigger : h.isTrigger = true) :
    h.Flight := by
  cases fetching : b.state.isFetching with
  | true =>
    rw [Actor.startFetch_fetching h.now b fetching] at same
    refine .quiet ?_ ?_ ?_ ?_ handed applied (by simp [begins, ← phase, fetching])
    all_goals rw [same]
    all_goals assumption
  | false =>
    rw [Actor.startFetch_idle h.now b fetching] at same
    have begun := State.after_beginFetch b.state h.now.date
    rw [if_neg (by simp [fetching])] at begun
    refine .begun ?_ ?_ (phase ▸ fetching) ?_ ?_ handed applied
      (by simp [begins, trigger, ← phase, fetching])
    all_goals simp only [same, Actor.publish, begun]
    case refine_1 => rw [running, attempts]
    case refine_2 => exact waiting
    case refine_3 => rfl
    case refine_4 => rw [attempts]

theorem flight_of_taken {now : Moment} {a : Actor} {event : Event} {step : Step}
    (taken : Actor.Taken now a event step) (alive : step.actor.stopped = false) :
    Flight ⟨a, now, event, step⟩ := by
  cases taken with
  | tick =>
    exact flight_of_startFetch _ { a with nextTick := a.tickAfter now }
      rfl rfl rfl rfl rfl rfl rfl rfl
  | handle _ command rest queue =>
    cases command with
    | setFilter text =>
      have refused :
          begins ⟨a, now, .handle, Actor.obey now { a with queue := rest } (.setFilter text)⟩ =
            false := by
        simp [begins, isTrigger, queue]
      rw [Actor.obey_setFilter, State.after_setFilter] at refused ⊢
      by_cases same : text = a.state.snapshot.filter
      · simp only [same, if_true] at refused ⊢
        exact .quiet rfl rfl rfl rfl rfl rfl refused
      · simp only [same, if_false] at refused ⊢
        exact .quiet rfl rfl rfl rfl rfl rfl refused
    | retry =>
      refine flight_of_startFetch _ { a with queue := rest } rfl rfl rfl rfl rfl rfl rfl ?_
      simp [isTrigger, queue]
    | connectivity online =>
      -- The report is published first; the fetch, if any, begins from the state after it.
      have trigger (step : Step) : isTrigger ⟨a, now, .handle, step⟩ =
          (a.state.comesBack online && a.plan.refetchOnReconnect) := by
        simp [isTrigger, queue, State.comesBack]
      let told := { a with queue := rest }.publish (a.state.setOnline online)
      simp only [Actor.obey]
      split
      next back =>
        exact flight_of_startFetch _ told.actor rfl rfl rfl rfl rfl rfl rfl ((trigger _).trans back)
      next back =>
        have off := Bool.eq_false_iff.2 back
        exact .quiet rfl rfl rfl rfl rfl rfl (by simp only [begins, trigger, off, Bool.false_and])
    | shutdown => cases alive
  | finish _ attempt result working room =>
    exact .landed attempt result working rfl rfl rfl rfl rfl rfl
  | lose stopped => exact absurd (stopped.symm.trans alive) (by decide)
  | deliver _ attempt result rest waiting =>
    refine .applied (attempt, result) waiting rfl ?_ ?_ rfl ?_ rfl
    · cases result <;> rfl
    · cases result <;> rfl
    · simp [Happening.applied, waiting]
  | send command =>
    unfold Actor.send
    split <;> exact .quiet rfl rfl rfl rfl rfl rfl rfl

theorem resting_of_stopped {now : Moment} {a : Actor} {event : Event} {step : Step}
    (taken : Actor.Taken now a event step) (stopped : step.actor.stopped = true) :
    started ⟨a, now, event, step⟩ = [] ∧ begins ⟨a, now, event, step⟩ = false := by
  cases taken with
  | tick alive =>
    rw [Actor.startFetch_stopped] at stopped
    exact absurd (stopped.symm.trans alive) (by decide)
  | handle alive command rest queue =>
    by_cases last : command = .shutdown
    · simp [last, started, begins, isTrigger, queue, Actor.obey]
    · rw [Actor.obey_stopped _ _ last] at stopped
      exact absurd (stopped.symm.trans alive) (by decide)
  | finish alive => exact absurd (stopped.symm.trans alive) (by decide)
  | lose _ attempt =>
    have fewer : ∀ n ∈ a.running.erase attempt, n ∈ a.running := fun n => List.mem_of_mem_erase
    simpa [started, begins, isTrigger] using fewer
  | deliver alive => exact absurd (stopped.symm.trans alive) (by decide)
  | send command =>
    unfold Actor.send
    split <;> simp [started, begins, isTrigger]

end Happening

structure Ledger (past : List Happening) (a : Actor) : Prop where
  single : a.running.length + a.waiting.length = if a.state.isFetching then 1 else 0
  started : past.flatMap Happening.started = List.range' 1 a.state.snapshot.attempts
  order : (past.flatMap Happening.applied).map Prod.fst ++ (a.waiting.map Prod.fst ++ a.running) =
    List.range' 1 a.state.snapshot.attempts
  handedOver : past.flatMap Happening.handedOver = past.flatMap Happening.applied ++ a.waiting
  attempts : a.state.snapshot.attempts = past.countP Happening.begins
  begun : ∀ h ∈ past, h.started =
    if h.begins then [h.before.state.snapshot.attempts + 1] else []

namespace Ledger

variable {past : List Happening} {a : Actor}

theorem spawn (plan : Plan) (now : Moment) (initial : Option Dataset) (filter : String) :
    Ledger [] (Actor.spawn plan now initial filter) := by
  constructor <;> simp [Actor.spawn, State.start, State.isFetching, State.phase]

theorem idle (ledger : Ledger past a) (idle : a.state.isFetching = false) :
    a.running = [] ∧ a.waiting = [] := by
  have single := ledger.single
  rw [idle] at single
  simpa using single

theorem length_le_one (ledger : Ledger past a) : a.running.length + a.waiting.length ≤ 1 := by
  rw [ledger.single]
  split <;> omega

theorem working_alone (ledger : Ledger past a) {attempt : Nat} (working : attempt ∈ a.running) :
    a.running = [attempt] ∧ a.waiting = [] := by
  have bound := ledger.length_le_one
  have positive := List.length_pos_of_mem working
  obtain ⟨only, running⟩ := List.length_eq_one_iff.1 (by omega : a.running.length = 1)
  have same : attempt = only := by simpa [running] using working
  exact ⟨same ▸ running, List.eq_nil_of_length_eq_zero (by omega)⟩

theorem waiting_alone (ledger : Ledger past a) {entry : Nat × Fetched}
    {rest : List (Nat × Fetched)} (waiting : a.waiting = entry :: rest) :
    a.running = [] ∧ rest = [] ∧ a.state.isFetching = true := by
  have bound := ledger.length_le_one
  rw [waiting, List.length_cons] at bound
  refine ⟨List.eq_nil_of_length_eq_zero (by omega), List.eq_nil_of_length_eq_zero (by omega), ?_⟩
  by_contra idle
  have empty := (ledger.idle (Bool.eq_false_iff.2 idle)).2
  rw [waiting] at empty
  cases empty

theorem next {h : Happening} (ledger : Ledger past h.before) (flight : h.Flight) :
    Ledger (past ++ [h]) h.step.actor := by
  have longer {started : List Nat} (same : h.started = started)
      (begun : started = if h.begins then [h.before.state.snapshot.attempts + 1] else []) :
      ∀ x ∈ past ++ [h], x.started =
        if x.begins then [x.before.state.snapshot.attempts + 1] else [] := by
    intro x member
    rcases List.mem_append.1 member with earlier | last
    · exact ledger.begun x earlier
    · rw [List.mem_singleton.1 last]
      exact same.trans begun
  have single := ledger.single
  have order := ledger.order
  cases flight with
  | quiet running waiting phase attempts handed applied refused =>
    have started : h.started = [] := by simp [Happening.started, running]
    exact
      { single := by rw [running, waiting, phase, single]
        started := by simp [started, ledger.started, attempts]
        order := by simpa [applied, running, waiting, attempts] using order
        handedOver := by simp [handed, applied, waiting, ledger.handedOver]
        attempts := by simp [attempts, refused, ledger.attempts]
        begun := longer started (by simp [refused]) }
  | begun running waiting idle phase attempts handed applied begins =>
    -- Idle, so by the ledger nothing is at work or waits, and the new attempt comes last.
    obtain ⟨none, empty⟩ := ledger.idle idle
    have started : h.started = [h.before.state.snapshot.attempts + 1] := by
      simp [Happening.started, running, none]
    have numbers : List.range' 1 h.step.actor.state.snapshot.attempts =
        List.range' 1 h.before.state.snapshot.attempts ++
          [h.before.state.snapshot.attempts + 1] := by
      rw [attempts, List.range'_1_concat, Nat.add_comm 1]
    exact
      { single := by simp [running, waiting, none, empty, phase]
        started := by simp [started, ledger.started, numbers]
        order := by
          rw [numbers, ← order]
          simp [applied, running, waiting, none, empty]
        handedOver := by simp [handed, applied, waiting, ledger.handedOver]
        attempts := by simp [attempts, begins, ledger.attempts]
        begun := longer started (by simp [begins]) }
  | landed attempt result working running waiting state handed applied refused =>
    -- The fetch was alone, so its place at work goes over to its result.
    obtain ⟨alone, empty⟩ := ledger.working_alone working
    rw [alone, List.erase_cons_head] at running
    rw [empty, List.nil_append] at waiting
    have started : h.started = [] := by simp [Happening.started, running]
    exact
      { single := by
          rw [state, ← single]
          simp [alone, empty, running, waiting]
        started := by simp [started, ledger.started, state]
        order := by
          rw [state, ← order]
          simp [applied, alone, empty, running, waiting]
        handedOver := by simp [handed, applied, waiting, empty, ledger.handedOver]
        attempts := by simp [state, refused, ledger.attempts]
        begun := longer started (by simp [refused]) }
  | applied entry waiting running phase attempts handed applied refused =>
    obtain ⟨none, empty, -⟩ := ledger.waiting_alone waiting
    have started : h.started = [] := by simp [Happening.started, running]
    exact
      { single := by simp [running, none, empty, phase]
        started := by simp [started, ledger.started, attempts]
        order := by
          rw [attempts, ← order]
          simp [applied, waiting, running]
        handedOver := by simp [handed, applied, waiting, ledger.handedOver]
        attempts := by simp [attempts, refused, ledger.attempts]
        begun := longer started (by simp [refused]) }

end Ledger

namespace Run

variable {plan : Plan} {now : Moment} {initial : Option Dataset} {filter : String}
  {past : List Happening} {a : Actor}

theorem alive_before {before : Actor} {event : Event} {step : Step}
    (taken : Actor.Taken now before event step) (alive : step.actor.stopped = false) :
    before.stopped = false := by
  cases taken with
  | tick running | handle running | finish running | deliver running => exact running
  | lose => exact alive
  | send command =>
    unfold Actor.send at alive
    split at alive <;> exact alive

theorem ledger (run : Run (Actor.spawn plan now initial filter) past a)
    (alive : a.stopped = false) : Ledger past a := by
  induction run with
  | start => exact .spawn plan now initial filter
  | next run taken ih =>
    have taken := (Actor.step?_eq_some_iff _ _ _ _).1 taken
    exact (ih (alive_before taken alive)).next (Happening.flight_of_taken taken alive)

theorem begun (run : Run (Actor.spawn plan now initial filter) past a) {h : Happening}
    (member : h ∈ past) :
    h.started = if h.begins then [h.before.state.snapshot.attempts + 1] else [] := by
  obtain ⟨done, before, taken⟩ := run.split_mem member
  cases stopped : h.step.actor.stopped with
  | false =>
    have last : h ∈ done ++ [h] := List.mem_append_right _ (List.mem_singleton_self h)
    exact ((before.next taken).ledger stopped).begun h last
  | true =>
    have resting := Happening.resting_of_stopped ((Actor.step?_eq_some_iff _ _ _ _).1 taken) stopped
    rw [resting.1, resting.2]
    rfl

theorem results_eq (past : List Happening) :
    (history past).results = (past.flatMap Happening.applied).map Prod.snd := by
  induction past with
  | nil => rfl
  | cons h rest ih =>
    rw [history, List.flatMap_cons, ← history, History.results_append, ih, h.results_operations,
      List.flatMap_cons, List.map_append]

theorem proper (run : Run (Actor.spawn plan now initial filter) past a) :
    (State.start now.date initial filter).Proper (history past) := by
  induction run with
  | start => trivial
  | @next past a run now event step taken ih =>
    have state : (State.start _ initial filter).afterAll (history past) = a.state :=
      run.state_eq.symm
    rw [history, List.flatMap_append, ← history, State.proper_append, state]
    refine ⟨ih, ?_⟩
    have taken := (Actor.step?_eq_some_iff _ _ _ _).1 taken
    cases taken with
    | deliver alive attempt result rest waiting =>
      -- A waiting result is the one thing outstanding, so the phase is still that of a fetch.
      have outstanding := ((run.ledger alive).waiting_alone waiting).2.2
      simp [Happening.operations, Actor.operations, waiting, State.Proper, outstanding]
    | tick | handle | finish | lose | send =>
      apply State.proper_of_no_results
      simp [Happening.results_operations, Happening.applied]

theorem single_flight (run : Run (Actor.spawn plan now initial filter) past a)
    (alive : a.stopped = false) :
    Ledger past a ∧
      (∀ attempt ∈ a.running, ∀ later result,
        (a.step? later (.finish attempt result)).isSome) ∧
      a.state = (State.start now.date initial filter).afterAll (history past) ∧
      (history past).results = (past.flatMap Happening.applied).map Prod.snd := by
  have ledger := run.ledger alive
  refine ⟨ledger, ?_, run.state_eq, results_eq past⟩
  -- A fetch at work is alone, so the channel has room for its result.
  intro attempt working later result
  obtain ⟨-, empty⟩ := ledger.working_alone working
  have room : a.waiting.length < Actor.capacity := by simp [empty, Actor.capacity]
  have taken : Actor.Taken later a _ _ := .finish alive attempt result working room
  rw [(Actor.step?_eq_some_iff later a _ _).2 taken]
  rfl

-- A fetch fails, a retry begins the next one, and a tick comes while it is at work.
theorem single_flight_after_retry :
    let first := Actor.spawn ⟨10, true⟩ ⟨0, ⟨0⟩⟩ none ""
    let events : List (Moment × Event) :=
      [(⟨0, ⟨0⟩⟩, .tick), (⟨1, ⟨1⟩⟩, .finish 1 (.error ⟨.fetch, "down"⟩)), (⟨2, ⟨2⟩⟩, .deliver),
        (⟨3, ⟨3⟩⟩, .send .retry), (⟨4, ⟨4⟩⟩, .handle), (⟨10, ⟨10⟩⟩, .tick)]
    ∃ past a, first.play? events = some (past, a) ∧ a.stopped = false ∧ a.running = [2] ∧
      Ledger past a ∧
      (∀ attempt ∈ a.running, ∀ later result,
        (a.step? later (.finish attempt result)).isSome) ∧
      a.state = (State.start ⟨0⟩ none "").afterAll (history past) ∧
      (history past).results = (past.flatMap Happening.applied).map Prod.snd := by
  intro first events
  have played : first.play? events = some _ := rfl
  have run := Run.start.play played
  exact ⟨_, _, played, rfl, rfl, single_flight run rfl⟩

end Run

end Leaderboard.Refresh
