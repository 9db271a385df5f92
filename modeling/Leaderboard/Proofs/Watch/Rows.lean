import Leaderboard.Proofs.Refresh.Publishing
import Leaderboard.Proofs.Watch.News

set_option autoImplicit false

namespace Leaderboard.Watch

open Refresh (Actor Happening History Moment Operation Plan Run Snapshot State Timestamp)

namespace Reported

variable {r : Reported} {s : State}

def UpToDate (r : Reported) (s : Snapshot) : Prop := r.listed = (s.generation, some s.filter)

instance (r : Reported) (s : Snapshot) : Decidable (r.UpToDate s) :=
  inferInstanceAs (Decidable (r.listed = (s.generation, some s.filter)))

theorem listed_afterAll (r : Reported) (seen : List Snapshot) :
    (r.afterAll seen).listed = ((r.news seen).filterMap listing?).getLast?.getD r.listed := by
  induction seen generalizing r with
  | nil => rfl
  | cons s rest ih =>
    rw [afterAll, List.foldl_cons, ← afterAll, ih, news, look]
    apply r.next_cases s (motive := fun n =>
      ((n.2.news rest).filterMap listing?).getLast?.getD n.2.listed =
        ((n.1.toList.map (s, ·) ++ n.2.news rest).filterMap listing?).getLast?.getD r.listed)
    case fetching => exact fun _ => rfl
    case failed => exact fun _ _ => rfl
    case rows =>
      intro _ _ _
      simp only [Option.toList_some, List.map_cons, List.map_nil, List.singleton_append,
        List.filterMap_cons, listing?, List.getLast?_cons, Option.getD_some]
      rfl
    case old => exact fun _ _ _ => rfl

theorem listing_of_upToDate {before : List Snapshot} {t : Snapshot}
    (upToDate : ((nothing.afterAll before).next t).2.UpToDate t) :
    ((nothing.news (before ++ [t])).filterMap listing?).getLast? =
      some (t.generation, some t.filter) := by
  have listed := nothing.listed_afterAll (before ++ [t])
  have reached : nothing.afterAll (before ++ [t]) = ((nothing.afterAll before).next t).2 := by
    simp [afterAll]
  rw [reached, upToDate] at listed
  cases last : ((nothing.news (before ++ [t])).filterMap listing?).getLast? with
  | none =>
    -- A reader who was told no rows has no filter on record.
    rw [last] at listed
    cases congrArg Prod.snd listed
  | some entry => rw [listed, last, Option.getD_some]

-- A reader who has just looked at a state.
structure Seen (r : Reported) (s : State) : Prop where
  behind : r.Behind s.snapshot
  told : r.untold s.snapshot = []
  generation : r.generation ≤ s.snapshot.generation

theorem Seen.next (behind : r.Behind s.snapshot) (generation : r.generation ≤ s.snapshot.generation) :
    (r.next s.snapshot).2.Seen s where
  behind := behind.next
  told := r.untold_next s.snapshot
  generation := by
    apply r.next_cases s.snapshot (motive := fun n => n.2.generation ≤ _)
    case rows => exact fun _ _ _ => Nat.le_refl _
    all_goals simp [generation]

theorem Seen.after (seen : r.Seen s) (now : Timestamp) (op : Operation) :
    (r.next (s.after now op).snapshot).2.Seen (s.after now op) :=
  .next (seen.behind.after now op)
    (Nat.le_trans seen.generation (s.after_advances now op).generation)

theorem Seen.afterAll (seen : r.Seen s) (h : History) :
    (r.afterAll ((s.course h).map State.snapshot)).Seen (s.afterAll h) := by
  induction h generalizing r s with
  | nil => exact seen
  | cons entry rest ih => exact ih (seen.after entry.1 entry.2)

theorem upToDate_next {s : Snapshot} (idle : s.phase = .idle) (loaded : s.isLoaded = true)
    (quiet : r.untold s = []) : (r.next s).2.UpToDate s := by
  have failed : r.isNewFailure s = false := by
    simpa [untold, idle] using quiet
  cases rows : r.hasNewRows s with
  | true =>
    rw [r.next_rows s idle failed rows]
    rfl
  | false =>
    rw [r.next_old s idle failed rows]
    have same : s.generation = r.generation ∧ r.filter = some s.filter := by
      simpa [hasNewRows, loaded] using rows
    exact Prod.ext same.1.symm same.2

theorem next_rows_of_differ {s : Snapshot} (idle : s.phase = .idle) (loaded : s.isLoaded = true)
    (quiet : r.untold s = []) (differ : ¬ r.UpToDate s) : (r.next s).1 = some .rows := by
  have failed : r.isNewFailure s = false := by
    simpa [untold, idle] using quiet
  cases rows : r.hasNewRows s with
  | true => rw [r.next_rows s idle failed rows]
  | false =>
    have same := upToDate_next idle loaded quiet
    rw [r.next_old s idle failed rows] at same
    exact absurd same differ

structure LookAtRest (r : Reported) (s t : Snapshot) : Prop where
  failed : s.phase = .fetching → t.lastOutcome = some .failed →
    ∃ message, t.error = some message ∧
      r.next t = (some (.failed message), { r with failedAttempt := t.attempts })
  upToDate : ¬ (s.phase = .fetching ∧ t.lastOutcome = some .failed) → (r.next t).2.UpToDate t
  fetched : s.phase = .fetching → t.lastOutcome ≠ some .failed → (r.next t).1 = some .rows
  filtered : s.phase = .idle → r.UpToDate s → t.filter ≠ s.filter → (r.next t).1 = some .rows

theorem LookAtRest.of_fetched {s t : Snapshot} (idle : t.phase = .idle) (loaded : t.isLoaded = true)
    (fetching : s.phase = .fetching) (succeeded : t.lastOutcome ≠ some .failed)
    (older : r.generation < t.generation) : r.LookAtRest s t := by
  have quiet : r.untold t = [] := by simp [untold, isNewFailure, succeeded]
  have differ : ¬ r.UpToDate t := fun same => Nat.ne_of_lt older (congrArg Prod.fst same)
  constructor
  case failed => exact fun _ failed => absurd failed succeeded
  case upToDate => exact fun _ => upToDate_next idle loaded quiet
  case fetched => exact fun _ _ => next_rows_of_differ idle loaded quiet differ
  case filtered => exact fun rests => by simp [fetching] at rests

theorem LookAtRest.of_failed {s t : Snapshot} {message : String} (idle : t.phase = .idle)
    (fetching : s.phase = .fetching) (failed : t.lastOutcome = some .failed)
    (error : t.error = some message) (new : r.failedAttempt ≠ t.attempts) : r.LookAtRest s t := by
  have news := r.next_failed t idle (by simp [isNewFailure, failed, new.symm])
  rw [error, Option.getD_some] at news
  constructor
  case failed => exact fun _ _ => ⟨message, error, news⟩
  case upToDate => exact fun not => absurd ⟨fetching, failed⟩ not
  case fetched => exact fun _ not => absurd failed not
  case filtered => exact fun rests => by simp [fetching] at rests

theorem LookAtRest.of_resting {s t : Snapshot} (idle : t.phase = .idle) (loaded : t.isLoaded = true)
    (rests : s.phase = .idle) (quiet : r.untold t = []) : r.LookAtRest s t := by
  constructor
  case failed => exact fun fetching => by simp [rests] at fetching
  case upToDate => exact fun _ => upToDate_next idle loaded quiet
  case fetched => exact fun fetching => by simp [rests] at fetching
  case filtered =>
    intro _ before new
    apply next_rows_of_differ idle loaded quiet
    intro now
    exact new (Option.some.inj (congrArg Prod.snd (now.symm.trans before)))

theorem Seen.lookAtRest (seen : r.Seen s) (now : Timestamp) {op : Operation}
    (changes : s.Changes op) (idle : (s.after now op).snapshot.phase = .idle)
    (loaded : (s.after now op).snapshot.isLoaded = true) :
    r.LookAtRest s.snapshot (s.after now op).snapshot := by
  have quiet := r.untold_after seen.behind now changes
  rw [seen.told] at quiet
  cases op with
  | beginFetch =>
    -- a fetch that begins does not leave the loop at rest
    have begins : ¬ s.isFetching = true := by simpa [State.Changes] using changes
    rw [State.after_beginFetch, if_neg begins] at idle
    cases idle
  | completeFetch result =>
    have fetching := s.isFetching_iff.1 changes
    cases result with
    | ok data =>
      have succeeded : (s.after now (.completeFetch (.ok data))).snapshot.lastOutcome ≠
          some .failed := by
        simp [State.after, State.completeFetch]
      exact .of_fetched idle loaded fetching succeeded (Nat.lt_succ_of_le seen.generation)
    | error failure =>
      exact .of_failed idle fetching rfl rfl (Nat.ne_of_lt (seen.behind.fetching fetching))
  | setFilter text =>
    have phase : (s.after now (.setFilter text)).snapshot.phase = s.snapshot.phase := by
      rw [State.after_setFilter, if_neg changes]
    exact .of_resting idle loaded (phase ▸ idle) quiet
  | setOnline online => exact .of_resting idle loaded idle quiet

end Reported

variable {plan : Plan} {now : Moment} {initial : Option Dataset} {filter : String}
  {past : List Happening} {a : Actor}

theorem rows_told_unless_failing (run : Run (Actor.spawn plan now initial filter) past a)
    {before after : List Snapshot} {t : Snapshot}
    (split : Run.shown (Actor.spawn plan now initial filter) past = before ++ t :: after)
    (idle : t.phase = .idle) (loaded : t.isLoaded = true) :
    let r := Reported.nothing.afterAll before
    (∀ s, before.getLast? = some s → r.LookAtRest s t) ∧
      ((∀ s, before.getLast? = some s → ¬ (s.phase = .fetching ∧ t.lastOutcome = some .failed)) →
        (r.next t).2.UpToDate t ∧
          ((Reported.nothing.news (before ++ [t])).filterMap listing?).getLast? =
            some (t.generation, some t.filter)) := by
  intro r
  obtain ⟨told, effective, -, shown_eq, -⟩ := run.journal
  -- The snapshots before `t` are those of a part of the journal, and one operation leads to `t`.
  rw [shown_eq] at split
  obtain ⟨states, others, path, rfl, tail⟩ := List.map_eq_append_iff.1 split
  obtain ⟨u, rest, rfl, rfl, -⟩ := List.map_eq_cons_iff.1 tail
  have fresh : (Reported.nothing.next (State.start now.date initial filter).snapshot).2.Seen
      (State.start now.date initial filter) := .next ⟨Nat.le_refl _, nofun⟩ (Nat.zero_le _)
  have looks : (∀ s, (states.map State.snapshot).getLast? = some s → r.LookAtRest s u.snapshot) ∧
      (states = [] → (r.next u.snapshot).2.UpToDate u.snapshot) := by
    rcases State.course_split _ path with ⟨rfl, rfl⟩ | ⟨first, date, op, rest, rfl, rfl, rfl⟩
    · exact ⟨nofun, fun _ => Reported.upToDate_next idle loaded rfl⟩
    · refine ⟨?_, nofun⟩
      intro s last
      rw [List.getLast?_map, State.getLast?_course, Option.map_some] at last
      cases last
      have changes := ((State.effective_append _ _ _).1 effective).2.1
      exact (fresh.afterAll first).lookAtRest date changes idle loaded
  refine ⟨looks.1, fun notFailed => ?_⟩
  have upToDate : (r.next u.snapshot).2.UpToDate u.snapshot := by
    cases states with
    | nil => exact looks.2 rfl
    | cons s states =>
      have last := List.getLast?_eq_some_getLast (l := (s :: states).map State.snapshot) (by simp)
      exact (looks.1 _ last).upToDate (notFailed _ last)
  exact ⟨upToDate, Reported.listing_of_upToDate upToDate⟩

-- A filter is set while a fetch is at work that then succeeds.
theorem rows_told_unless_failing_after_filter :
    let first := Actor.spawn ⟨10, true⟩ ⟨0, ⟨0⟩⟩ (some .empty) ""
    let events : List (Moment × Refresh.Event) :=
      [(⟨10, ⟨10⟩⟩, .tick), (⟨11, ⟨11⟩⟩, .send (.setFilter "node1")), (⟨12, ⟨12⟩⟩, .handle),
        (⟨13, ⟨13⟩⟩, .finish 1 (.ok .empty)), (⟨14, ⟨14⟩⟩, .deliver)]
    ∃ past a, first.play? events = some (past, a) ∧
      let before := (Run.shown first past).take 3
      let t := a.published
      Run.shown first past = before ++ [t] ∧ t.phase = .idle ∧ t.isLoaded = true ∧
        (∀ s, before.getLast? = some s → (Reported.nothing.afterAll before).LookAtRest s t) ∧
        ((Reported.nothing.afterAll before).next t).1 = some .rows ∧
        ((Reported.nothing.afterAll before).next t).2.UpToDate t ∧
        ((Reported.nothing.news (before ++ [t])).filterMap listing?).getLast? =
          some (2, some "node1") := by
  intro first events
  have played : first.play? events = some _ := rfl
  have run := Run.start.play played
  refine ⟨_, _, played, ?_⟩
  intro before t
  obtain ⟨looks, told⟩ := @rows_told_unless_failing _ _ _ _ _ _ run before [] t rfl rfl rfl
  have succeeded := told fun s last failed => by
    cases last
    exact absurd failed.2 (by decide)
  exact ⟨rfl, rfl, rfl, looks, (looks _ rfl).fetched rfl (by decide), succeeded⟩

-- Each time the loop comes to rest with the new filter, but the failure is all that is told.
theorem rows_not_told_after_failures :
    let first := Actor.spawn ⟨10, true⟩ ⟨0, ⟨0⟩⟩ (some .empty) ""
    let events : List (Moment × Refresh.Event) :=
      [(⟨10, ⟨10⟩⟩, .tick), (⟨11, ⟨11⟩⟩, .send (.setFilter "node1")), (⟨12, ⟨12⟩⟩, .handle),
        (⟨13, ⟨13⟩⟩, .finish 1 (.error ⟨.fetch, "down"⟩)), (⟨14, ⟨14⟩⟩, .deliver),
        (⟨20, ⟨20⟩⟩, .tick), (⟨21, ⟨21⟩⟩, .finish 2 (.error ⟨.fetch, "down"⟩)),
        (⟨22, ⟨22⟩⟩, .deliver)]
    ∃ past a, first.play? events = some (past, a) ∧
      let shown := Run.shown first past
      (shown.map (fun s => (s.phase, s.isLoaded, s.filter)) =
        [(.idle, true, ""), (.fetching, true, ""), (.fetching, true, "node1"),
          (.idle, true, "node1"), (.fetching, true, "node1"), (.idle, true, "node1")]) ∧
      (Reported.nothing.news shown).map Prod.snd =
        [.rows, .failed "Fetch error: down", .failed "Fetch error: down"] ∧
      (Reported.nothing.news shown).filterMap listing? = [(1, some "")] ∧
      ¬ (Reported.nothing.afterAll (shown.take 4)).UpToDate a.published ∧
      ¬ (Reported.nothing.afterAll shown).UpToDate a.published := by
  intro first events
  have played : first.play? events = some _ := rfl
  exact ⟨_, _, played, rfl, rfl, rfl, by decide, by decide⟩

end Leaderboard.Watch
