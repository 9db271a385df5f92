import Leaderboard.Proofs.Refresh.SingleFlight

set_option autoImplicit false

namespace Leaderboard.Refresh

-- Whether an operation can be done to a state and is published then.
def State.Changes (s : State) : Operation → Prop
  | .beginFetch => s.isFetching = false
  | .completeFetch _ => s.isFetching = true
  | .setFilter text => text ≠ s.snapshot.filter
  | .setOnline _ => True

namespace State

variable (s : State) (now : Timestamp)

def Effective : State → History → Prop
  | _, [] => True
  | s, (now, op) :: rest => s.Changes op ∧ Effective (s.after now op) rest

def numbered : State → History → List (Nat × Fetched)
  | _, [] => []
  | s, (now, op) :: rest =>
    op.result?.toList.map (s.snapshot.attempts, ·) ++ numbered (s.after now op) rest

theorem effective_append (first second : History) :
    s.Effective (first ++ second) ↔ s.Effective first ∧ (s.afterAll first).Effective second := by
  induction first generalizing s with
  | nil => simp [Effective]
  | cons entry rest ih =>
    obtain ⟨now, op⟩ := entry
    simp only [List.cons_append, Effective, ih, and_assoc]
    rfl

theorem numbered_append (first second : History) :
    s.numbered (first ++ second) = s.numbered first ++ (s.afterAll first).numbered second := by
  induction first generalizing s with
  | nil => rfl
  | cons entry rest ih =>
    obtain ⟨now, op⟩ := entry
    simp only [List.cons_append, numbered, ih, List.append_assoc]
    rfl

theorem numbered_of_no_results {h : History} (none : h.results = []) : s.numbered h = [] := by
  induction h generalizing s with
  | nil => rfl
  | cons entry rest ih =>
    obtain ⟨now, op⟩ := entry
    rw [← List.singleton_append, History.results_append, List.append_eq_nil_iff] at none
    have first : op.result?.toList = [] := by simpa [History.results] using none.1
    rw [numbered, first, ih _ none.2]
    rfl

-- The number of the attempt whose result comes next.
def awaited : Nat := if s.isFetching then s.snapshot.attempts else s.snapshot.attempts + 1

theorem awaited_after {op : Operation} (changes : s.Changes op) :
    (s.after now op).awaited = s.awaited + op.result?.toList.length := by
  cases op with
  | beginFetch =>
    have idle : s.isFetching = false := changes
    rw [after_beginFetch, awaited, awaited, idle]
    rfl
  | completeFetch result =>
    have fetching : s.isFetching = true := changes
    rw [awaited, awaited, fetching]
    cases result <;> rfl
  | setFilter text =>
    rw [after_setFilter, if_neg changes]
    rfl
  | setOnline online => rfl

theorem numbers_result {op : Operation} (changes : s.Changes op) :
    (op.result?.toList.map (s.snapshot.attempts, ·)).map Prod.fst =
      List.range' s.awaited op.result?.toList.length := by
  cases op with
  | completeFetch result =>
    have fetching : s.isFetching = true := changes
    simp [awaited, fetching, Operation.result?]
  | beginFetch | setFilter | setOnline => rfl

theorem numbers_eq {h : History} (effective : s.Effective h) :
    (s.numbered h).map Prod.fst = List.range' s.awaited (s.numbered h).length := by
  induction h generalizing s with
  | nil => rfl
  | cons entry rest ih =>
    obtain ⟨now, op⟩ := entry
    obtain ⟨changes, effective⟩ := effective
    -- the first operation leaves the next number to the rest, whether it used one or not
    rw [numbered, List.map_append, ih _ effective, numbers_result s changes,
      awaited_after s now changes, List.length_append, List.length_map, List.range'_append_1]

theorem numbered_ascending {h : History} (effective : s.Effective h) :
    (s.numbered h).Pairwise (fun a b => a.1 < b.1) := by
  have ascending := List.pairwise_lt_range' (s := s.awaited) (n := (s.numbered h).length)
  rwa [← numbers_eq s effective, List.pairwise_map] at ascending

theorem length_course (h : History) : (s.course h).length = h.length := by
  induction h generalizing s with
  | nil => rfl
  | cons entry rest ih =>
    obtain ⟨now, op⟩ := entry
    rw [course, List.length_cons, ih, List.length_cons]

theorem getLast?_course (h : History) : (s :: s.course h).getLast? = some (s.afterAll h) := by
  induction h generalizing s with
  | nil => rfl
  | cons entry rest ih =>
    obtain ⟨now, op⟩ := entry
    rw [course, List.getLast?_cons_cons, ih]
    rfl

theorem course_split {h : History} {before after : List State} {t : State}
    (split : s :: s.course h = before ++ t :: after) :
    before = [] ∧ t = s ∨
      ∃ first now op rest, h = first ++ (now, op) :: rest ∧ before = s :: s.course first ∧
        t = (s.afterAll first).after now op := by
  induction h generalizing s before with
  | nil =>
    cases before with
    | nil => exact .inl ⟨rfl, (List.cons.inj split).1.symm⟩
    | cons u more => simp [course] at split
  | cons entry rest ih =>
    obtain ⟨now, op⟩ := entry
    cases before with
    | nil => exact .inl ⟨rfl, (List.cons.inj split).1.symm⟩
    | cons u more =>
      obtain ⟨rfl, later⟩ := List.cons.inj split
      right
      rcases ih _ later with ⟨none, reached⟩ | ⟨first, date, last, others, whole, before, reached⟩
      · exact ⟨[], now, op, rest, rfl, by rw [none]; rfl, reached⟩
      · exact ⟨(now, op) :: first, date, last, others, by rw [whole]; rfl, by rw [before]; rfl,
          reached⟩

end State

-- A step that does these operations to a state, none of them in vain, and publishes each of them.
structure Step.Tells (state : State) (told : History) (s : Step) : Prop where
  effective : state.Effective told
  state_eq : s.actor.state = state.afterAll told
  published : s.published = (state.course told).map State.snapshot

namespace Step.Tells

theorem nothing (a : Actor) : Tells a.state [] ⟨a, []⟩ := ⟨trivial, rfl, rfl⟩

theorem publish (a : Actor) (now : Timestamp) {op : Operation} (changes : a.state.Changes op) :
    Tells a.state [(now, op)] (a.publish (a.state.after now op)) :=
  ⟨⟨changes, trivial⟩, rfl, rfl⟩

theorem andThen {state : State} {first second : History} {s : Step} {next : Actor → Step}
    (one : Tells state first s) (two : Tells s.actor.state second (next s.actor)) :
    Tells state (first ++ second) (s.andThen next) where
  effective := (state.effective_append first second).2 ⟨one.effective, one.state_eq ▸ two.effective⟩
  state_eq := by
    rw [State.afterAll_append, ← one.state_eq]
    exact two.state_eq
  published := by
    rw [State.course_append, List.map_append, ← one.state_eq, ← one.published, ← two.published]
    rfl

end Step.Tells

namespace Actor

open Step (Tells)

variable (now : Moment) (a : Actor)

theorem startFetch_tells :
    ∃ told, Tells a.state told (startFetch now a) ∧ told.results = [] := by
  cases fetching : a.state.isFetching with
  | true =>
    rw [startFetch_fetching now a fetching]
    exact ⟨[], .nothing a, rfl⟩
  | false =>
    rw [startFetch_idle now a fetching]
    exact ⟨[(now.date, .beginFetch)],
      .publish { a with running := a.running ++ [a.state.snapshot.attempts + 1] } now.date fetching,
      rfl⟩

theorem obey_tells (command : Command) :
    ∃ told, Tells a.state told (obey now a command) ∧ told.results = [] := by
  cases command with
  | setFilter text =>
    rw [obey_setFilter]
    split
    next => exact ⟨[], .nothing a, rfl⟩
    next new => exact ⟨[(now.date, .setFilter text)], .publish a now.date new, rfl⟩
  | retry => exact startFetch_tells now a
  | connectivity online =>
    have report : a.state.Changes (.setOnline online) := trivial
    have told := Tells.publish a now.date report
    simp only [obey]
    split
    next =>
      -- The report is one entry, and the fetch that it brings may be another.
      obtain ⟨more, begun, none⟩ :=
        startFetch_tells now (a.publish (a.state.after now.date (.setOnline online))).actor
      exact ⟨_, told.andThen begun, by rw [History.results_append, none]; rfl⟩
    next => exact ⟨_, told, rfl⟩
  | shutdown => exact ⟨[], .nothing { a with stopped := true }, rfl⟩

end Actor

namespace Run

variable {plan : Plan} {now : Moment} {initial : Option Dataset} {filter : String}
  {past : List Happening} {a : Actor}

theorem attempt_of_waiting (run : Run (Actor.spawn plan now initial filter) past a)
    (alive : a.stopped = false) {entry : Nat × Fetched} {rest : List (Nat × Fetched)}
    (waiting : a.waiting = entry :: rest) : entry.1 = a.state.snapshot.attempts := by
  have ledger := run.ledger alive
  -- the ledger lists all attempts in order, and behind this one there is nothing left to list
  obtain ⟨none, empty, -⟩ := ledger.waiting_alone waiting
  have order := ledger.order
  rw [waiting, none, empty] at order
  cases attempts : a.state.snapshot.attempts with
  | zero => simp [attempts] at order
  | succ n =>
    rw [attempts, List.range'_1_concat] at order
    have last := congrArg List.getLast? order
    simp only [List.map_cons, List.map_nil, List.append_nil, List.getLast?_append,
      List.getLast?_singleton, Option.some_or] at last
    have last := Option.some.inj last
    omega

theorem step_tells (run : Run (Actor.spawn plan now initial filter) past a) {moment : Moment}
    {event : Event} {step : Step} (taken : a.step? moment event = some step) :
    ∃ told, Step.Tells a.state told step ∧
      a.state.numbered told = Happening.applied ⟨a, moment, event, step⟩ := by
  have taken := (Actor.step?_eq_some_iff _ _ _ _).1 taken
  -- Only a delivery has a result; of all others it is enough to know what they tell.
  have quiet {b : Actor} (same : b.state = a.state) {step : Step}
      (tells : ∃ told, Step.Tells b.state told step ∧ told.results = []) :
      ∃ told, Step.Tells a.state told step ∧ a.state.numbered told = [] := by
    obtain ⟨told, tells, none⟩ := tells
    exact ⟨told, same ▸ tells, State.numbered_of_no_results _ none⟩
  cases taken with
  | tick alive due =>
    exact quiet rfl (Actor.startFetch_tells moment { a with nextTick := a.tickAfter moment })
  | handle alive command rest queue =>
    exact quiet rfl (Actor.obey_tells moment { a with queue := rest } command)
  | finish alive attempt result running room => exact ⟨[], ⟨trivial, rfl, rfl⟩, rfl⟩
  | lose stopped attempt result running => exact ⟨[], ⟨trivial, rfl, rfl⟩, rfl⟩
  | deliver alive attempt result rest waiting =>
    have outstanding : a.state.Changes (.completeFetch result) :=
      ((run.ledger alive).waiting_alone waiting).2.2
    have attempt_eq := run.attempt_of_waiting alive waiting
    refine ⟨[(moment.date, .completeFetch result)],
      .publish { a with waiting := rest } moment.date outstanding, ?_⟩
    simp [State.numbered, Operation.result?, Happening.applied, waiting, ← attempt_eq]
  | send command =>
    have same : (a.send command).state = a.state := by
      unfold Actor.send
      split <;> rfl
    exact ⟨[], ⟨trivial, same, rfl⟩, rfl⟩

theorem journal (run : Run (Actor.spawn plan now initial filter) past a) :
    ∃ told, (State.start now.date initial filter).Effective told ∧
      a.state = (State.start now.date initial filter).afterAll told ∧
      shown (Actor.spawn plan now initial filter) past =
        (State.start now.date initial filter ::
          (State.start now.date initial filter).course told).map State.snapshot ∧
      past.flatMap Happening.applied = (State.start now.date initial filter).numbered told := by
  induction run with
  | start => exact ⟨[], trivial, rfl, rfl, rfl⟩
  | @next past a run moment event step taken ih =>
    obtain ⟨told, effective, state, shown_eq, applied⟩ := ih
    obtain ⟨more, tells, numbers⟩ := run.step_tells taken
    rw [state] at tells numbers
    refine ⟨told ++ more, (State.effective_append _ _ _).2 ⟨effective, tells.effective⟩, ?_, ?_, ?_⟩
    · rw [State.afterAll_append]
      exact tells.state_eq
    · rw [State.course_append, ← List.cons_append, List.map_append, ← shown_eq, ← tells.published]
      simp [shown]
    · rw [State.numbered_append, numbers, List.flatMap_append, applied]
      simp [Happening.applied]

end Run

end Leaderboard.Refresh
