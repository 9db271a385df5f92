import Leaderboard.Proofs.Refresh.Publishing

set_option autoImplicit false

namespace Leaderboard.Refresh

theorem Operation.text?_of_isFetch (op : Operation) (fetch : op.isFetch = true) :
    op.text? = none := by
  cases op with
  | beginFetch | completeFetch => rfl
  | setFilter | setOnline => cases fetch

theorem Operation.report?_of_isFetch (op : Operation) (fetch : op.isFetch = true) :
    op.report? = none := by
  cases op with
  | beginFetch | completeFetch => rfl
  | setFilter | setOnline => cases fetch

namespace Command

def text? : Command → Option String
  | setFilter text => some text
  | _ => none

def report? : Command → Option Bool
  | connectivity online => some online
  | _ => none

def Effect (before after : Actor) : Command → Prop
  | setFilter text => after.state.snapshot.filter = text
  | retry => after.state.isFetching = true
  | connectivity online =>
    after.state.snapshot.online = online ∧
      (before.state.comesBack online && before.plan.refetchOnReconnect →
        after.state.isFetching = true)
  | shutdown => after.stopped = true ∧ after.state = before.state

end Command

namespace Actor

variable (now : Moment) (a : Actor)

theorem startFetch_online :
    (startFetch now a).actor.state.snapshot.online = a.state.snapshot.online := by
  rw [(startFetch_follows now a).state_eq]
  change (a.state.after now.date .beginFetch).snapshot.online = _
  rw [State.after_beginFetch]
  split <;> rfl

theorem obey_effect (command : Command) : command.Effect a (obey now a command).actor := by
  cases command with
  | setFilter text =>
    simp only [Command.Effect, obey_setFilter]
    split
    next same => exact same.symm
    next different =>
      simp only [publish, State.after_setFilter, if_neg different]
  | retry => exact startFetch_isFetching now a
  | connectivity online =>
    simp only [Command.Effect, obey]
    split
    next back =>
      let told := a.publish (a.state.setOnline online)
      exact ⟨startFetch_online now told.actor, fun _ => startFetch_isFetching now told.actor⟩
    next off => exact ⟨rfl, fun back => absurd back off⟩
  | shutdown => exact ⟨rfl, rfl⟩

end Actor

namespace Happening

variable (h : Happening)

def sent : List Command :=
  match h.event with
  | .send command => [command]
  | _ => []

def heard : List Command :=
  match h.event with
  | .handle => h.before.queue.take 1
  | _ => []

theorem filterMap_operations {β : Type} {asked : Operation → Option β} {asks : Command → Option β}
    (fetches : ∀ op, op.isFetch = true → asked op = none)
    (filters : ∀ text, asked (.setFilter text) = asks (.setFilter text))
    (reports : ∀ online, asked (.setOnline online) = asks (.connectivity online))
    (retry : asks .retry = none) (shutdown : asks .shutdown = none) :
    h.operations.filterMap (fun entry => asked entry.2) = h.heard.filterMap asks := by
  obtain ⟨a, now, event, step⟩ := h
  cases event with
  | tick => simp [operations, Actor.operations, heard, fetches .beginFetch rfl]
  | handle =>
    cases queue : a.queue with
    | nil => simp [operations, Actor.operations, queue, heard]
    | cons command rest =>
      cases command with
      | setFilter text =>
        simp [operations, Actor.operations, Actor.commandOperations, queue, heard, filters,
          List.filterMap_cons]
      | retry =>
        simp [operations, Actor.operations, Actor.commandOperations, queue, heard, retry,
          fetches .beginFetch rfl]
      | connectivity online =>
        by_cases back : (a.state.comesBack online && a.plan.refetchOnReconnect) = true <;>
          simp [operations, Actor.operations, Actor.commandOperations, queue, heard, back, reports,
            fetches .beginFetch rfl, List.filterMap_cons]
      | shutdown =>
        simp [operations, Actor.operations, Actor.commandOperations, queue, heard, shutdown]
  | finish | send => rfl
  | deliver =>
    cases waiting : a.waiting with
    | nil => simp [operations, Actor.operations, waiting, heard]
    | cons entry rest =>
      simp [operations, Actor.operations, waiting, heard, fetches (.completeFetch entry.2) rfl]

theorem effect_of_taken {now : Moment} {a : Actor} {event : Event} {step : Step}
    (taken : Actor.Taken now a event step) {command : Command}
    (heard : command ∈ heard ⟨a, now, event, step⟩) : command.Effect a step.actor := by
  cases taken with
  | handle alive first rest queue =>
    obtain rfl : command = first := by simpa [Happening.heard, queue] using heard
    exact Actor.obey_effect now { a with queue := rest } command
  | tick | finish | lose | deliver | send => simp [Happening.heard] at heard

structure Idle : Prop where
  stopped : h.step.actor.stopped = true
  published : h.step.actor.published = h.before.published
  state : h.step.actor.state = h.before.state
  running : h.step.actor.running.Sublist h.before.running
  shown : h.step.published = []
  started : h.started = []
  heard : h.heard = []
  applied : h.applied = []

theorem idle_of_stopped {now : Moment} {a : Actor} {event : Event} {step : Step}
    (taken : Actor.Taken now a event step) (stopped : a.stopped = true) :
    Idle ⟨a, now, event, step⟩ := by
  have silent (alive : a.stopped = false) : False := absurd (stopped.symm.trans alive) (by decide)
  cases taken with
  | tick alive | handle alive | finish alive | deliver alive => exact (silent alive).elim
  | lose _ attempt result running =>
    have lost : Actor.Taken now a (.finish attempt result) _ :=
      .lose stopped attempt result running
    exact
      { stopped := stopped
        published := rfl
        state := rfl
        running := List.erase_sublist
        shown := rfl
        started := (resting_of_stopped lost stopped).1
        heard := rfl
        applied := rfl }
  | send command =>
    have same : a.send command = a := by simp [Actor.send, stopped]
    rw [same]
    exact
      { stopped := stopped
        published := rfl
        state := rfl
        running := List.Sublist.refl _
        shown := rfl
        started := by simp [started]
        heard := rfl
        applied := rfl }

end Happening

namespace Run

-- All handles send to one queue.
def sent (past : List Happening) : List Command := past.flatMap Happening.sent

def heard (past : List Happening) : List Command := past.flatMap Happening.heard

theorem sent_concat (past : List Happening) (h : Happening) :
    sent (past ++ [h]) = sent past ++ h.sent := by
  simp [sent]

theorem heard_concat (past : List Happening) (h : Happening) :
    heard (past ++ [h]) = heard past ++ h.heard := by
  simp [heard]

inductive Mail (past : List Happening) (a : Actor) : Prop
  | going (alive : a.stopped = false) (order : sent past = heard past ++ a.queue)
    (first : .shutdown ∉ heard past)
  | ended (stopped : a.stopped = true) (earlier later : List Command)
    (order : sent past = earlier ++ .shutdown :: later)
    (heard : heard past = earlier ++ [.shutdown]) (first : .shutdown ∉ earlier)

variable {start : Actor} {past : List Happening} {a : Actor}

theorem Mail.next (mail : Mail past a) {now : Moment} {event : Event} {step : Step}
    (taken : Actor.Taken now a event step) :
    Mail (past ++ [⟨a, now, event, step⟩]) step.actor := by
  cases mail with
  | going alive order first =>
    -- An event that neither sends nor handles leaves the queue as it was.
    have aside {h : Happening} (goes : h.step.actor.stopped = false)
        (queue : h.step.actor.queue = a.queue) (sent : h.sent = []) (heard : h.heard = []) :
        Mail (past ++ [h]) h.step.actor := by
      apply Mail.going goes
      · rw [sent_concat, heard_concat, sent, heard, queue, List.append_nil, List.append_nil, order]
      · rwa [heard_concat, heard, List.append_nil]
    cases taken with
    | tick =>
      let due := { a with nextTick := a.tickAfter now }
      exact aside ((Actor.startFetch_stopped now due).trans alive)
        (Actor.startFetch_agenda now due).queue rfl rfl
    | handle _ command rest queue =>
      let waiting := { a with queue := rest }
      let h : Happening := ⟨a, now, .handle, Actor.obey now waiting command⟩
      have heard : heard (past ++ [h]) = Run.heard past ++ [command] := by
        simp [h, heard_concat, Happening.heard, queue]
      have order : sent (past ++ [h]) = Run.heard past ++ command :: rest := by
        rw [sent_concat, order, queue]
        exact List.append_nil _
      by_cases last : command = .shutdown
      · subst last
        exact .ended rfl _ rest order heard first
      · have goes := (Actor.obey_stopped now waiting last).trans alive
        apply Mail.going goes
        · rw [order, heard, (Actor.obey_agenda now waiting command).queue, List.append_assoc,
            List.singleton_append]
        · rw [heard, List.mem_append, List.mem_singleton]
          exact not_or.2 ⟨first, Ne.symm last⟩
    | finish => exact aside alive rfl rfl rfl
    | lose stopped => exact absurd (stopped.symm.trans alive) (by decide)
    | deliver => exact aside alive rfl rfl rfl
    | send command =>
      have queue : (a.send command).queue = a.queue ++ [command] := by simp [Actor.send, alive]
      apply Mail.going
      · simp [Actor.send, alive]
      · rw [sent_concat, heard_concat, queue, order]
        simp [Happening.sent, Happening.heard]
      · simpa [heard_concat, Happening.heard] using first
  | ended stopped earlier later order heard first =>
    have silent (alive : a.stopped = false) : False :=
      absurd (stopped.symm.trans alive) (by decide)
    cases taken with
    | tick alive | handle alive | finish alive | deliver alive => exact (silent alive).elim
    | lose _ attempt result =>
      refine .ended stopped earlier later ?_ ?_ first
      · rw [sent_concat, order]
        exact List.append_nil _
      · rw [heard_concat, heard]
        exact List.append_nil _
    | send command =>
      refine .ended (by simp [Actor.send, stopped]) earlier (later ++ [command]) ?_ ?_ first
      · rw [sent_concat, order, List.append_assoc]
        rfl
      · rw [heard_concat, heard]
        exact List.append_nil _

variable {plan : Plan} {now : Moment} {initial : Option Dataset} {filter : String}

theorem mail (run : Run (Actor.spawn plan now initial filter) past a) : Mail past a := by
  induction run with
  | start => exact .going rfl rfl List.not_mem_nil
  | next run taken ih => exact ih.next ((Actor.step?_eq_some_iff _ _ _ _).1 taken)

theorem heard_of_stopped (run : Run (Actor.spawn plan now initial filter) past a)
    (stopped : a.stopped = true) :
    heard past = (sent past).takeWhile (fun command => command ≠ .shutdown) ++ [.shutdown] := by
  cases run.mail with
  | going alive => exact absurd (stopped.symm.trans alive) (by decide)
  | ended _ earlier later order heard first =>
    have others : ∀ command ∈ earlier, decide (command ≠ .shutdown) = true :=
      fun command member => decide_eq_true fun same => first (same ▸ member)
    rw [heard, order, List.takeWhile_append_of_pos others, List.takeWhile_cons_of_neg (by simp),
      List.append_nil]

theorem filterMap_history {β : Type} {asked : Operation → Option β} {asks : Command → Option β}
    (each : ∀ h : Happening,
      h.operations.filterMap (fun entry => asked entry.2) = h.heard.filterMap asks) :
    (history past).filterMap (fun entry => asked entry.2) = (heard past).filterMap asks := by
  simp only [history, heard, List.filterMap_flatMap, each]

theorem snapshot_of_heard (run : Run (Actor.spawn plan now initial filter) past a) :
    a.state.snapshot.filter = ((heard past).filterMap Command.text?).getLast?.getD filter ∧
      a.state.snapshot.online = ((heard past).filterMap Command.report?).getLast?.getD true := by
  have told := State.accounts_afterAll now.date initial filter (history past) run.proper
  have state : (State.start now.date initial filter).afterAll (history past) = a.state :=
    run.state_eq.symm
  rw [state] at told
  have texts : (history past).texts = (heard past).filterMap Command.text? :=
    filterMap_history fun h => h.filterMap_operations Operation.text?_of_isFetch
      (fun _ => rfl) (fun _ => rfl) rfl rfl
  have reports : (history past).reports = (heard past).filterMap Command.report? :=
    filterMap_history fun h => h.filterMap_operations Operation.report?_of_isFetch
      (fun _ => rfl) (fun _ => rfl) rfl rfl
  exact ⟨texts ▸ told.filter, reports ▸ told.online⟩

theorem idle_of_stopped (run : Run start past a) (stopped : start.stopped = true) :
    a.stopped = true ∧ a.published = start.published ∧ a.state = start.state ∧
      a.running.Sublist start.running ∧ ∀ h ∈ past, h.Idle := by
  induction run with
  | start => exact ⟨stopped, rfl, rfl, List.Sublist.refl _, by simp⟩
  | next run taken ih =>
    obtain ⟨still, published, state, running, idle⟩ := ih
    have last := Happening.idle_of_stopped ((Actor.step?_eq_some_iff _ _ _ _).1 taken) still
    refine ⟨last.stopped, last.published.trans published, last.state.trans state,
      last.running.trans running, ?_⟩
    intro h member
    rcases List.mem_append.1 member with earlier | only
    · exact idle h earlier
    · exact List.mem_singleton.1 only ▸ last

-- A loop with a shutdown in its queue ends by handling its commands.
theorem exists_end (moment : Moment) {commands : List Command} (alive : start.stopped = false)
    (queue : start.queue = commands) (asked : .shutdown ∈ commands) :
    ∃ later b, Run start later b ∧ b.stopped = true ∧
      heard later = commands.takeWhile (fun command => command ≠ .shutdown) ++ [.shutdown] := by
  induction commands generalizing start with
  | nil => cases asked
  | cons command rest ih =>
    let waiting := { start with queue := rest }
    have taken :=
      (Actor.step?_eq_some_iff moment start .handle _).2 (.handle alive command rest queue)
    have first := Run.start.next taken
    have told : heard ([] ++ [⟨start, moment, .handle, Actor.obey moment waiting command⟩]) =
        [command] := by
      simp [heard, Happening.heard, queue]
    by_cases last : command = .shutdown
    · subst last
      exact ⟨_, _, first, rfl, told⟩
    · have goes := (Actor.obey_stopped moment waiting last).trans alive
      have left := (Actor.obey_agenda moment waiting command).queue
      have more : .shutdown ∈ rest := (List.mem_cons.1 asked).resolve_left (Ne.symm last)
      obtain ⟨later, b, run, stopped, order⟩ := ih goes left more
      refine ⟨_, b, first.append run, stopped, ?_⟩
      rw [heard, List.flatMap_append, ← heard, ← heard, told, order,
        List.takeWhile_cons_of_pos (by simpa using last)]
      rfl

theorem shutdown_is_final (run : Run (Actor.spawn plan now initial filter) past a) :
    (∀ h ∈ past, ∀ command ∈ h.heard, command.Effect h.before h.step.actor ∧
      h.step.actor.published = h.step.actor.state.snapshot) ∧
    a.state.snapshot.filter = ((heard past).filterMap Command.text?).getLast?.getD filter ∧
    a.state.snapshot.online = ((heard past).filterMap Command.report?).getLast?.getD true ∧
    (a.stopped = false → sent past = heard past ++ a.queue ∧ .shutdown ∉ heard past) ∧
    (a.stopped = false → .shutdown ∈ a.queue → ∃ later b, Run a later b ∧ b.stopped = true ∧
      heard later = a.queue.takeWhile (fun command => command ≠ .shutdown) ++ [.shutdown]) ∧
    (a.stopped = true →
      heard past = (sent past).takeWhile (fun command => command ≠ .shutdown) ++ [.shutdown] ∧
      (∀ later command, a.step? later (.send command) = some ⟨a, []⟩) ∧
      (∀ attempt ∈ a.running, ∀ later result, a.step? later (.finish attempt result) =
        some ⟨{ a with running := a.running.erase attempt }, []⟩) ∧
      ∀ later b, Run a later b → b.stopped = true ∧ b.published = a.published ∧
        b.state = a.state ∧ b.running.Sublist a.running ∧ ∀ h ∈ later, h.Idle) := by
  obtain ⟨filter, online⟩ := run.snapshot_of_heard
  refine ⟨?_, filter, online, ?_, fun alive => exists_end now alive rfl, ?_⟩
  · intro h member command told
    obtain ⟨done, before, taken⟩ := run.split_mem member
    have effect := Happening.effect_of_taken ((Actor.step?_eq_some_iff _ _ _ _).1 taken) told
    exact ⟨effect, run.each_current h member⟩
  · intro alive
    cases run.mail with
    | going _ order first => exact ⟨order, first⟩
    | ended stopped => exact absurd (stopped.symm.trans alive) (by decide)
  · intro stopped
    refine ⟨run.heard_of_stopped stopped, ?_, ?_, fun later b on => on.idle_of_stopped stopped⟩
    · intro later command
      have taken := (Actor.step?_eq_some_iff later a _ _).2 (.send command)
      simpa [Actor.send, stopped] using taken
    · intro attempt running later result
      exact (Actor.step?_eq_some_iff later a _ _).2 (.lose stopped attempt result running)

-- The first fetch is at work throughout, and its result comes too late.
theorem shutdown_is_final_during_fetch :
    let spawned := Actor.spawn ⟨10, true⟩ ⟨0, ⟨0⟩⟩ none ""
    let events : List (Moment × Event) :=
      [(⟨0, ⟨0⟩⟩, .tick), (⟨1, ⟨1⟩⟩, .send (.setFilter "node1")), (⟨1, ⟨1⟩⟩, .send .retry),
        (⟨1, ⟨1⟩⟩, .send .shutdown), (⟨1, ⟨1⟩⟩, .send (.setFilter "node2")), (⟨2, ⟨2⟩⟩, .handle),
        (⟨2, ⟨2⟩⟩, .handle), (⟨2, ⟨2⟩⟩, .handle)]
    let after : List (Moment × Event) :=
      [(⟨3, ⟨3⟩⟩, .send .retry), (⟨4, ⟨4⟩⟩, .finish 1 (.ok .empty))]
    ∃ past a later b, spawned.play? events = some (past, a) ∧ a.play? after = some (later, b) ∧
      a.stopped = true ∧ a.published.phase = .fetching ∧ a.queue = [.setFilter "node2"] ∧
      heard past = [.setFilter "node1", .retry, .shutdown] ∧
      a.state.snapshot.filter = "node1" ∧ b.running = [] ∧ b.published = a.published ∧
      ∀ h ∈ later, h.Idle := by
  intro spawned events after
  have played : spawned.play? events = some _ := rfl
  have run := Run.start.play played
  refine ⟨_, _, _, _, played, rfl, rfl, rfl, rfl, ?_⟩
  obtain ⟨-, filter, -, -, -, final⟩ := shutdown_is_final run
  obtain ⟨heard, -, -, idle⟩ := final rfl
  obtain ⟨-, published, -, -, each⟩ :=
    idle _ _ (Run.start.play (show Actor.play? _ after = some _ from rfl))
  exact ⟨heard, filter, rfl, published, each⟩

end Run

end Leaderboard.Refresh
