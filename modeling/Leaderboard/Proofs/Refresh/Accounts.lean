import Leaderboard.Proofs.Refresh.History

set_option autoImplicit false

namespace Leaderboard.Refresh

structure Accounts (initial : Option Dataset) (filter : String) (texts : List String)
    (reports : List Bool) (results : List Fetched) (s : Snapshot) : Prop where
  filter : s.filter = texts.getLast?.getD filter
  online : s.online = reports.getLast?.getD true
  dataset : s.dataset = (datasetsOf results).getLast?.or initial
  rows : s.rows = (s.dataset.map (fun data => project data s.filter)).getD []
  error : ∀ message, s.error = some message ↔
    ∃ failure, results.getLast? = some (.error failure) ∧ failure.message = message
  failed : s.lastOutcome = some .failed ↔ ∃ failure, results.getLast? = some (.error failure)
  generation : s.generation = (datasetsOf results).length + (if initial.isSome then 1 else 0)
  attempts : s.attempts = results.length + (if s.phase = .fetching then 1 else 0)
  lastSuccess : s.lastSuccess.isSome = s.dataset.isSome
  settled : results ≠ [] → s.isLoaded ∨ s.isError

namespace Accounts

theorem start (now : Timestamp) (initial : Option Dataset) (filter : String) :
    Accounts initial filter [] [] [] (State.start now initial filter).snapshot := by
  constructor
  case rows => cases initial <;> rfl
  case error => simp [State.start]
  case failed => simp [State.start]
  case generation => simp [State.start, datasetsOf]
  case lastSuccess => cases initial <;> rfl
  case settled => simp
  all_goals rfl

variable {initial : Option Dataset} {filter : String} {texts : List String}
  {reports : List Bool} {results : List Fetched} {s : State}

theorem beginFetch (told : Accounts initial filter texts reports results s.snapshot)
    (now : Timestamp) :
    Accounts initial filter texts reports results (s.after now .beginFetch).snapshot := by
  rw [State.after_beginFetch]
  by_cases fetching : s.isFetching
  · rw [if_pos fetching]
    exact told
  · rw [if_neg fetching]
    have idle : s.snapshot.phase ≠ .fetching := fun phase => fetching (s.isFetching_iff.2 phase)
    have attempts := told.attempts
    rw [if_neg idle] at attempts
    exact { told with attempts := by simp [attempts] }

theorem completeFetch (told : Accounts initial filter texts reports results s.snapshot)
    (now : Timestamp) (fetching : s.isFetching) (result : Fetched) :
    Accounts initial filter texts reports (results ++ [result])
      (s.after now (.completeFetch result)).snapshot := by
  have attempts := told.attempts
  rw [if_pos (s.isFetching_iff.1 fetching)] at attempts
  cases result with
  | ok data =>
    exact
      { told with
        dataset := by simp [State.after, State.completeFetch, datasetsOf_fetched]
        rows := rfl
        error := by simp [State.after, State.completeFetch]
        failed := by simp [State.after, State.completeFetch]
        generation := by
          have generation := told.generation
          simp only [State.after, State.completeFetch, datasetsOf_fetched, List.length_append,
            List.length_singleton]
          omega
        attempts := by simp [State.after, State.completeFetch, attempts]
        lastSuccess := rfl
        settled := fun _ => .inl rfl }
  | error failure =>
    -- A failure brings no dataset, so all that rests on the dataset stays.
    exact
      { told with
        dataset := by
          rw [datasetsOf_failed]
          exact told.dataset
        error := by simp [State.after, State.completeFetch]
        failed := by simp [State.after, State.completeFetch]
        generation := by
          rw [datasetsOf_failed]
          exact told.generation
        attempts := by simp [State.after, State.completeFetch, attempts]
        settled := fun _ => .inr rfl }

theorem setFilter (told : Accounts initial filter texts reports results s.snapshot)
    (now : Timestamp) (text : String) :
    Accounts initial filter (texts ++ [text]) reports results
      (s.after now (.setFilter text)).snapshot := by
  rw [State.after_setFilter]
  by_cases same : text = s.snapshot.filter
  · rw [if_pos same]
    exact { told with filter := by simp [same] }
  · rw [if_neg same]
    exact
      { told with
        filter := by simp
        rows := by cases s.snapshot.dataset <;> rfl }

theorem setOnline (told : Accounts initial filter texts reports results s.snapshot)
    (now : Timestamp) (online : Bool) :
    Accounts initial filter texts (reports ++ [online]) results
      (s.after now (.setOnline online)).snapshot :=
  { told with online := by simp [State.after, State.setOnline] }

theorem after {h : History} (told : Accounts initial filter h.texts h.reports h.results s.snapshot)
    (now : Timestamp) (op : Operation) (proper : op.result?.isSome → s.isFetching) :
    Accounts initial filter (History.texts (h ++ [(now, op)])) (History.reports (h ++ [(now, op)]))
      (History.results (h ++ [(now, op)])) (s.after now op).snapshot := by
  simp only [History.texts_concat, History.reports_concat, History.results_concat]
  cases op with
  | beginFetch =>
    simpa [Operation.text?, Operation.report?, Operation.result?] using told.beginFetch now
  | completeFetch result =>
    have fetching := proper rfl
    simpa [Operation.text?, Operation.report?, Operation.result?] using
      told.completeFetch now fetching result
  | setFilter text =>
    simpa [Operation.text?, Operation.report?, Operation.result?] using told.setFilter now text
  | setOnline online =>
    simpa [Operation.text?, Operation.report?, Operation.result?] using told.setOnline now online

end Accounts

namespace State

variable (born : Timestamp) (initial : Option Dataset) (filter : String)

theorem accounts_afterAll (h : History) (proper : (start born initial filter).Proper h) :
    Accounts initial filter h.texts h.reports h.results
      ((start born initial filter).afterAll h).snapshot := by
  induction h using List.reverseRecOn with
  | nil => exact .start born initial filter
  | append_singleton h entry ih =>
    obtain ⟨now, op⟩ := entry
    obtain ⟨earlier, last⟩ := (proper_append _ _ _).1 proper
    rw [afterAll_concat]
    exact (ih earlier).after now op last.1

theorem phase_afterAll (h : History) :
    ((start born initial filter).afterAll h).snapshot.phase = .fetching ↔
      ∃ date, h.fetches.getLast? = some (date, .beginFetch) := by
  induction h using List.reverseRecOn with
  | nil => simp [start, History.fetches]
  | append_singleton h entry ih =>
    obtain ⟨now, op⟩ := entry
    rw [afterAll_concat]
    cases op with
    | beginFetch =>
      rw [after_beginFetch]
      split
      next fetching =>
        -- Refused, yet it is the last thing done to fetch and the phase agrees with it.
        have phase := (isFetching_iff _).1 fetching
        simp [Operation.isFetch, phase]
      next => simp [Operation.isFetch]
    | completeFetch result => cases result <;> simp [after, completeFetch, Operation.isFetch]
    | setFilter text =>
      rw [after_setFilter]
      split <;> simp [Operation.isFetch, ih]
    | setOnline online => simp [after, setOnline, Operation.isFetch, ih]

theorem snapshot_told_by_parts (h : History) (proper : (start born initial filter).Proper h) :
    let last := ((start born initial filter).afterAll h).snapshot
    Accounts initial filter h.texts h.reports h.results last ∧
      (last.phase = .fetching ↔ ∃ date, h.fetches.getLast? = some (date, .beginFetch)) ∧
      ∀ other : History, other.SameParts h →
        ((start born initial filter).afterAll other).snapshot = last := by
  refine ⟨accounts_afterAll born initial filter h proper, phase_afterAll born initial filter h, ?_⟩
  -- Both histories come to the same fetches, followed by the same choice of rows.
  intro other same
  rw [← start_shownWith, afterAll_shownWith, afterAll_shownWith, same.fetches, same.texts,
    same.reports]

-- A filter typed during the first fetch, and a second fetch that fails.
theorem snapshot_told_after_failure :
    let h : History := [(⟨1⟩, .beginFetch), (⟨2⟩, .setFilter "node1"),
      (⟨3⟩, .completeFetch (.ok .empty)), (⟨4⟩, .beginFetch), (⟨5⟩, .setOnline false),
      (⟨6⟩, .completeFetch (.error ⟨.fetch, "down"⟩))]
    let last := ((start ⟨0⟩ none "").afterAll h).snapshot
    (start ⟨0⟩ none "").Proper h ∧
      Accounts none "" ["node1"] [false] [.ok .empty, .error ⟨.fetch, "down"⟩] last ∧
      (last.phase = .fetching ↔ ∃ date, h.fetches.getLast? = some (date, .beginFetch)) ∧
      ∀ other : History, other.SameParts h → ((start ⟨0⟩ none "").afterAll other).snapshot = last :=
  have proper : (start ⟨0⟩ none "").Proper _ := by decide
  ⟨proper, snapshot_told_by_parts ⟨0⟩ none "" _ proper⟩

end State

end Leaderboard.Refresh
