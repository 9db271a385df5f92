import Leaderboard.Proofs.Refresh.Accounts
import Leaderboard.Proofs.Refresh.SingleFlight

set_option autoImplicit false

namespace Leaderboard.Refresh

structure Snapshot.Advances (s t : Snapshot) : Prop where
  generation : s.generation ≤ t.generation
  attempts : s.attempts ≤ t.attempts

theorem Snapshot.Advances.refl (s : Snapshot) : s.Advances s := ⟨Nat.le_refl _, Nat.le_refl _⟩

theorem Snapshot.Advances.trans {s t u : Snapshot} (one : s.Advances t) (two : t.Advances u) :
    s.Advances u :=
  ⟨Nat.le_trans one.generation two.generation, Nat.le_trans one.attempts two.attempts⟩

structure Snapshot.Coherent (seed : Nat) (s : Snapshot) : Prop where
  rows : s.rows = (s.dataset.map (fun data => project data s.filter)).getD []
  generation : s.generation ≤ s.attempts + seed

theorem Accounts.coherent {initial : Option Dataset} {filter : String} {texts : List String}
    {reports : List Bool} {results : List Fetched} {s : Snapshot}
    (told : Accounts initial filter texts reports results s) :
    s.Coherent (if initial.isSome then 1 else 0) := by
  refine ⟨told.rows, ?_⟩
  -- Every dataset that was applied was the result of one of the completed fetches.
  have fewer : (datasetsOf results).length ≤ results.length := List.length_filterMap_le _ _
  have generation := told.generation
  have attempts := told.attempts
  omega

namespace State

theorem after_advances (s : State) (now : Timestamp) (op : Operation) :
    s.snapshot.Advances (s.after now op).snapshot := by
  cases op with
  | beginFetch =>
    rw [after_beginFetch]
    split
    · exact .refl _
    · exact ⟨Nat.le_refl _, Nat.le_succ _⟩
  | completeFetch result =>
    cases result with
    | ok => exact ⟨Nat.le_succ _, Nat.le_refl _⟩
    | error => exact ⟨Nat.le_refl _, Nat.le_refl _⟩
  | setFilter text =>
    rw [after_setFilter]
    split <;> exact ⟨Nat.le_refl _, Nat.le_refl _⟩
  | setOnline => exact ⟨Nat.le_refl _, Nat.le_refl _⟩

theorem course_advances (s : State) (h : History) :
    ((s :: s.course h).map State.snapshot).Pairwise Snapshot.Advances := by
  induction h generalizing s with
  | nil => exact List.pairwise_singleton _ _
  | cons entry rest ih =>
    obtain ⟨now, op⟩ := entry
    have later := ih (s.after now op)
    have step := s.after_advances now op
    refine List.pairwise_cons.2 ⟨?_, later⟩
    intro t member
    rcases List.mem_cons.1 member with first | member
    · exact first ▸ step
    · exact step.trans ((List.pairwise_cons.1 later).1 t member)

theorem mem_course {s t : State} {h : History} (member : t ∈ s :: s.course h) :
    ∃ done rest, h = done ++ rest ∧ t = s.afterAll done := by
  induction h generalizing s with
  | nil => exact ⟨[], [], rfl, List.mem_singleton.1 member⟩
  | cons entry rest ih =>
    obtain ⟨now, op⟩ := entry
    rcases List.mem_cons.1 member with first | member
    · exact ⟨[], (now, op) :: rest, rfl, first⟩
    · obtain ⟨done, left, split, reached⟩ := ih member
      exact ⟨(now, op) :: done, left, by rw [split]; rfl, reached⟩

end State

namespace Run

variable {plan : Plan} {now : Moment} {initial : Option Dataset} {filter : String}
  {past : List Happening} {a : Actor}

theorem shown_sublist_course (run : Run (Actor.spawn plan now initial filter) past a) :
    (shown (Actor.spawn plan now initial filter) past).Sublist
      ((State.start now.date initial filter :: (State.start now.date initial filter).course
        (history past)).map State.snapshot) :=
  run.shown_sublist.cons_cons _

theorem shown_accounts (run : Run (Actor.spawn plan now initial filter) past a) {s : Snapshot}
    (member : s ∈ shown (Actor.spawn plan now initial filter) past) :
    ∃ done rest, history past = done ++ rest ∧
      Accounts initial filter done.texts done.reports done.results s := by
  obtain ⟨state, reached, rfl⟩ := List.mem_map.1 (run.shown_sublist_course.mem member)
  obtain ⟨done, rest, split, rfl⟩ := State.mem_course reached
  have proper := run.proper
  rw [split, State.proper_append] at proper
  exact ⟨done, rest, split, State.accounts_afterAll now.date initial filter done proper.1⟩

theorem shown_coherent (run : Run (Actor.spawn plan now initial filter) past a) {s : Snapshot}
    (member : s ∈ shown (Actor.spawn plan now initial filter) past) :
    s.Coherent (if initial.isSome then 1 else 0) := by
  obtain ⟨done, rest, -, told⟩ := run.shown_accounts member
  exact told.coherent

theorem shown_dataset (run : Run (Actor.spawn plan now initial filter) past a) {s : Snapshot}
    (member : s ∈ shown (Actor.spawn plan now initial filter) past) {data : Dataset}
    (loaded : s.dataset = some data) :
    initial = some data ∨ data ∈ datasetsOf (history past).results := by
  obtain ⟨done, rest, split, told⟩ := run.shown_accounts member
  rw [told.dataset, Option.or_eq_some_iff] at loaded
  rcases loaded with latest | ⟨-, first⟩
  · refine .inr ?_
    rw [split, History.results_append, datasetsOf, List.filterMap_append]
    exact List.mem_append_left _ (List.mem_of_getLast? latest)
  · exact .inl first

theorem each_current (run : Run (Actor.spawn plan now initial filter) past a) :
    ∀ h ∈ past, h.step.actor.published = h.step.actor.state.snapshot := by
  induction run with
  | start => simp
  | next run taken ih =>
    intro h member
    rcases List.mem_append.1 member with earlier | last
    · exact ih h earlier
    · rw [List.mem_singleton.1 last]
      exact (Run.next run taken).current rfl

theorem observers_follow (run : Run (Actor.spawn plan now initial filter) past a) :
    a.published = a.state.snapshot ∧
      (∀ h ∈ past, h.step.actor.published = h.step.actor.state.snapshot) ∧
      (shown (Actor.spawn plan now initial filter) past).getLast? = some a.published ∧
      (shown (Actor.spawn plan now initial filter) past).Pairwise Snapshot.Advances ∧
      ∀ s ∈ shown (Actor.spawn plan now initial filter) past,
        s.Coherent (if initial.isSome then 1 else 0) := by
  refine ⟨run.current rfl, run.each_current, run.latest, ?_, fun s => run.shown_coherent⟩
  exact (State.course_advances _ _).sublist run.shown_sublist_course

-- The network goes and comes back, which is shown before and after a fetch is begun.
theorem observers_follow_reconnect :
    let first := Actor.spawn ⟨10, true⟩ ⟨0, ⟨0⟩⟩ (some .empty) ""
    let events : List (Moment × Event) :=
      [(⟨0, ⟨0⟩⟩, .send (.connectivity false)), (⟨1, ⟨1⟩⟩, .handle),
        (⟨2, ⟨2⟩⟩, .send (.connectivity true)), (⟨3, ⟨3⟩⟩, .handle)]
    ∃ past a, first.play? events = some (past, a) ∧ (shown first past).length = 4 ∧
      a.published = a.state.snapshot ∧
      (∀ h ∈ past, h.step.actor.published = h.step.actor.state.snapshot) ∧
      (shown first past).getLast? = some a.published ∧
      (shown first past).Pairwise Snapshot.Advances ∧
      ∀ s ∈ shown first past, s.Coherent 1 := by
  intro first events
  have played : first.play? events = some _ := rfl
  have run := Run.start.play played
  exact ⟨_, _, played, rfl, observers_follow run⟩

end Run

end Leaderboard.Refresh
