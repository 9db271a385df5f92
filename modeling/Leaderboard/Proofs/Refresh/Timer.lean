import Leaderboard.Proofs.Refresh.SingleFlight

set_option autoImplicit false

namespace Leaderboard.Refresh

def Actor.outstanding (a : Actor) : Nat := a.running.length + a.waiting.length

def Plan.firstTick (plan : Plan) (start : Nat) (loaded : Bool) : Nat :=
  if loaded then start + plan.period else start

namespace Happening

variable (h : Happening)

def isTick : Bool :=
  match h.event with
  | .tick => true
  | _ => false

theorem isTick_iff : h.isTick = true ↔ h.event = .tick := by
  unfold isTick
  split
  next tick => simp [tick]
  next other => simpa using other

theorem timer_of_taken {now : Moment} {a : Actor} {event : Event} {step : Step}
    (taken : Actor.Taken now a event step) :
    step.actor.plan = a.plan ∧
      step.actor.nextTick =
        if isTick ⟨a, now, event, step⟩ then a.tickAfter now else a.nextTick := by
  cases taken with
  | tick alive due =>
    have agenda := Actor.startFetch_agenda now { a with nextTick := a.tickAfter now }
    exact ⟨agenda.plan, agenda.nextTick⟩
  | handle alive command rest queue =>
    have agenda := Actor.obey_agenda now { a with queue := rest } command
    exact ⟨agenda.plan, agenda.nextTick⟩
  | finish | lose | deliver => exact ⟨rfl, rfl⟩
  | send command =>
    unfold Actor.send
    split <;> exact ⟨rfl, rfl⟩

end Happening

namespace Run

def ticks (past : List Happening) : List Nat :=
  (past.filter Happening.isTick).map (fun h => h.now.clock)

-- No time passes while a tick is due, until the loop is stopped.
def Punctual (past : List Happening) : Prop :=
  ∀ h ∈ past, h.before.stopped = false → h.now.clock ≤ h.before.nextTick

instance (past : List Happening) : Decidable (Punctual past) :=
  inferInstanceAs (Decidable (∀ h ∈ past, _))

def timetable (first period count : Nat) : List Nat :=
  (List.range count).map (fun k => first + k * period)

section Timetable

variable (first period : Nat)

theorem timetable_succ (count : Nat) :
    timetable first period (count + 1) =
      timetable first period count ++ [first + count * period] := by
  simp [timetable, List.range_succ]

theorem timetable_begins {one other : Nat} (fewer : one ≤ other) :
    timetable first period one <+: timetable first period other := by
  obtain ⟨more, rfl⟩ := Nat.exists_eq_add_of_le fewer
  simp only [timetable, List.range_add, List.map_append]
  exact List.prefix_append _ _

theorem mem_timetable {count k : Nat} (before : k < count) :
    first + k * period ∈ timetable first period count :=
  List.mem_map.2 ⟨k, List.mem_range.2 before, rfl⟩

end Timetable

structure OnSchedule (plan : Plan) (first : Nat) (past : List Happening) (a : Actor) : Prop where
  follows : a.plan = plan
  ticks : ticks past = timetable first plan.period (ticks past).length
  nextTick : a.nextTick = first + (Run.ticks past).length * plan.period

variable {plan : Plan} {first : Nat} {past : List Happening} {a : Actor}

theorem OnSchedule.next (schedule : OnSchedule plan first past a) {now : Moment} {event : Event}
    {step : Step} (taken : Actor.Taken now a event step)
    (punctual : a.stopped = false → now.clock ≤ a.nextTick) :
    OnSchedule plan first (past ++ [⟨a, now, event, step⟩]) step.actor := by
  obtain ⟨follows, next⟩ := Happening.timer_of_taken taken
  have follows := follows.trans schedule.follows
  by_cases tick : Happening.isTick ⟨a, now, event, step⟩ = true
  · rw [if_pos tick] at next
    have longer : Run.ticks (past ++ [⟨a, now, event, step⟩]) = Run.ticks past ++ [now.clock] := by
      simp [Run.ticks, tick]
    have due : now.clock = a.nextTick := by
      obtain rfl : event = .tick := (Happening.isTick_iff _).1 tick
      cases taken with
      | tick alive due => exact Nat.le_antisymm (punctual alive) due
    -- Handled when it is due, a tick is not late.
    have onTime : a.tickAfter now = a.nextTick + a.plan.period := by
      have early : ¬ a.nextTick + Actor.tolerance < now.clock := by omega
      rw [Actor.tickAfter, if_neg early]
    constructor
    · exact follows
    · rw [longer, List.length_append, List.length_singleton, timetable_succ, ← schedule.ticks, due,
        schedule.nextTick]
    · rw [longer, List.length_append, List.length_singleton, next, onTime, schedule.nextTick,
        schedule.follows, Nat.add_mul, Nat.one_mul, Nat.add_assoc]
  · rw [if_neg tick] at next
    have same : Run.ticks (past ++ [⟨a, now, event, step⟩]) = Run.ticks past := by
      simp [Run.ticks, tick]
    constructor
    · exact follows
    · rw [same]
      exact schedule.ticks
    · rw [same, next]
      exact schedule.nextTick

variable {start : Moment} {initial : Option Dataset} {filter : String}

theorem onSchedule (run : Run (Actor.spawn plan start initial filter) past a)
    (punctual : Punctual past) :
    OnSchedule plan (plan.firstTick start.clock initial.isSome) past a := by
  induction run with
  | start => exact ⟨rfl, rfl, by simp [Actor.spawn, Plan.firstTick, ticks]⟩
  | next run taken ih =>
    have schedule := ih fun h member => punctual h (List.mem_append_left _ member)
    apply schedule.next ((Actor.step?_eq_some_iff _ _ _ _).1 taken)
    exact punctual _ (List.mem_append_right _ (List.mem_singleton_self _))

theorem none_missed (run : Run (Actor.spawn plan start initial filter) past a)
    (punctual : Punctual past) {done rest : List Happening} {h : Happening}
    (whole : past = done ++ h :: rest) (alive : h.before.stopped = false) {k : Nat}
    (earlier : plan.firstTick start.clock initial.isSome + k * plan.period < h.now.clock) :
    plan.firstTick start.clock initial.isSome + k * plan.period ∈ ticks done := by
  have before : Punctual done := fun x member => punctual x (whole ▸ List.mem_append_left _ member)
  have schedule := (run.split whole).1.onSchedule before
  have late := punctual h (by simp [whole]) alive
  have fewer : k < (ticks done).length := by
    by_contra more
    have further := Nat.mul_le_mul_right plan.period (Nat.le_of_not_lt more)
    have next := schedule.nextTick
    omega
  rw [schedule.ticks]
  exact mem_timetable _ _ fewer

theorem tick_fetches (run : Run (Actor.spawn plan start initial filter) past a) {now : Moment}
    {step : Step} (taken : a.step? now .tick = some step) :
    step.actor.state.isFetching = true ∧ step.actor.outstanding = 1 ∧
      Happening.started ⟨a, now, .tick, step⟩ =
        if a.outstanding = 0 then [a.state.snapshot.attempts + 1] else [] := by
  have after := run.next taken
  cases (Actor.step?_eq_some_iff _ _ _ _).1 taken with
  | tick alive due =>
    let due := { a with nextTick := a.tickAfter now }
    have fetching := Actor.startFetch_isFetching now due
    have ledger := after.ledger ((Actor.startFetch_stopped now due).trans alive)
    have begun := ledger.begun _ (List.mem_append_right _ (List.mem_singleton_self _))
    have idle : Happening.begins ⟨a, now, .tick, Actor.startFetch now due⟩ = true ↔
        a.outstanding = 0 := by
      rw [Actor.outstanding, (run.ledger alive).single]
      cases phase : a.state.isFetching <;> simp [Happening.begins, Happening.isTrigger, phase]
    exact ⟨fetching, ledger.single.trans (if_pos fetching), begun.trans (if_congr idle rfl rfl)⟩

theorem ticks_agree (run : Run (Actor.spawn plan start initial filter) past a)
    (punctual : Punctual past) {plan' : Plan} {start' : Moment} {initial' : Option Dataset}
    {filter' : String} {past' : List Happening} {b : Actor}
    (run' : Run (Actor.spawn plan' start' initial' filter') past' b) (punctual' : Punctual past')
    (period : plan'.period = plan.period) (clock : start'.clock = start.clock)
    (loaded : initial'.isSome = initial.isSome) :
    ticks past <+: ticks past' ∨ ticks past' <+: ticks past := by
  have one := (run.onSchedule punctual).ticks
  have other := (run'.onSchedule punctual').ticks
  simp only [Plan.firstTick, period, clock, loaded] at one other
  rw [one, other]
  rcases Nat.le_total (ticks past).length (ticks past').length with fewer | more
  · exact .inl (timetable_begins _ _ fewer)
  · exact .inr (timetable_begins _ _ more)

-- What else happens neither moves the ticks nor makes up for one that was ignored.
theorem ticks_keep_time (run : Run (Actor.spawn plan start initial filter) past a)
    (punctual : Punctual past) :
    let first := plan.firstTick start.clock initial.isSome
    ticks past = timetable first plan.period (ticks past).length ∧
      a.nextTick = first + (ticks past).length * plan.period ∧
      (a.stopped = false → ∀ now, now.clock = a.nextTick → (a.step? now .tick).isSome) ∧
      (∀ done h rest, past = done ++ h :: rest → h.before.stopped = false →
        ∀ k, first + k * plan.period < h.now.clock → first + k * plan.period ∈ ticks done) ∧
      (∀ h ∈ past, h.event = .tick →
        h.step.actor.state.isFetching = true ∧ h.step.actor.outstanding = 1 ∧
          h.started = if h.before.outstanding = 0 then [h.before.state.snapshot.attempts + 1]
            else []) ∧
      (∀ h ∈ past, h.event ≠ .tick → h.step.actor.nextTick = h.before.nextTick) ∧
      (∀ h ∈ past, h.started =
        if h.begins then [h.before.state.snapshot.attempts + 1] else []) ∧
      ∀ plan' start' initial' filter' past' b,
        Run (Actor.spawn plan' start' initial' filter') past' b → Punctual past' →
        plan'.period = plan.period → start'.clock = start.clock →
        initial'.isSome = initial.isSome →
          ticks past <+: ticks past' ∨ ticks past' <+: ticks past := by
  have schedule := run.onSchedule punctual
  refine ⟨schedule.ticks, schedule.nextTick, ?_, ?_, ?_, ?_, fun h => run.begun, ?_⟩
  · intro alive now due
    have taken := Actor.Taken.tick alive (Nat.le_of_eq due.symm)
    rw [(Actor.step?_eq_some_iff now a .tick _).2 taken]
    rfl
  · intro done h rest whole alive k earlier
    exact run.none_missed punctual whole alive earlier
  · intro h member tick
    obtain ⟨done, before, taken⟩ := run.split_mem member
    obtain ⟨b, now, event, step⟩ := h
    obtain rfl : event = .tick := tick
    exact before.tick_fetches taken
  · intro h member other
    obtain ⟨done, before, taken⟩ := run.split_mem member
    have next := (Happening.timer_of_taken ((Actor.step?_eq_some_iff _ _ _ _).1 taken)).2
    exact next.trans (if_neg (mt h.isTick_iff.1 other))
  · intro plan' start' initial' filter' past' b run' punctual'
    exact run.ticks_agree punctual run' punctual'

-- A fetch is at work at the second tick and a retry at the third: the fourth alone begins a fetch
-- again.
theorem ticks_keep_time_beside_retry :
    let spawned := Actor.spawn ⟨10, true⟩ ⟨0, ⟨0⟩⟩ none ""
    let failure : Fetched := .error ⟨.fetch, "down"⟩
    let events : List (Moment × Event) :=
      [(⟨0, ⟨0⟩⟩, .tick), (⟨10, ⟨10⟩⟩, .tick), (⟨12, ⟨12⟩⟩, .finish 1 failure),
        (⟨12, ⟨12⟩⟩, .deliver), (⟨13, ⟨13⟩⟩, .send .retry), (⟨13, ⟨13⟩⟩, .handle),
        (⟨20, ⟨20⟩⟩, .tick),
        (⟨21, ⟨21⟩⟩, .finish 2 (.ok .empty)), (⟨21, ⟨21⟩⟩, .deliver),
        (⟨22, ⟨22⟩⟩, .send (.connectivity false)), (⟨22, ⟨22⟩⟩, .handle),
        (⟨23, ⟨23⟩⟩, .send (.connectivity true)), (⟨23, ⟨23⟩⟩, .handle),
        (⟨24, ⟨24⟩⟩, .finish 3 failure), (⟨24, ⟨24⟩⟩, .deliver), (⟨30, ⟨30⟩⟩, .tick)]
    let past := ((spawned.play? events).getD ([], spawned)).1
    let a := ((spawned.play? events).getD ([], spawned)).2
    spawned.play? events = some (past, a) ∧ Punctual past ∧ ticks past = [0, 10, 20, 30] ∧
      (past.filter Happening.isTick).map Happening.started = [[1], [], [], [4]] ∧
      a.nextTick = 0 + (ticks past).length * 10 ∧
      (∀ h ∈ past, h.event ≠ .tick → h.step.actor.nextTick = h.before.nextTick) ∧
      ∀ h ∈ past, h.event = .tick → h.step.actor.outstanding = 1 := by
  intro spawned failure events past a
  have played : spawned.play? events = some (past, a) := by
    have happens : (spawned.play? events).isSome = true := by decide +kernel
    obtain ⟨result, same⟩ := Option.isSome_iff_exists.1 happens
    simp only [past, a, same, Option.getD_some]
  have punctual : Punctual past := by decide +kernel
  have instants : ticks past = [0, 10, 20, 30] := by decide +kernel
  have begun : (past.filter Happening.isTick).map Happening.started = [[1], [], [], [4]] := by
    decide +kernel
  clear_value past a
  obtain ⟨-, next, -, -, fetches, still, -⟩ := ticks_keep_time (Run.start.play played) punctual
  exact ⟨played, punctual, instants, begun, next, still,
    fun h member tick => (fetches h member tick).2.1⟩

end Run

end Leaderboard.Refresh
