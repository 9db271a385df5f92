import Mathlib.Data.List.Induction
import Leaderboard.Refresh.State

set_option autoImplicit false

namespace Leaderboard.Refresh

inductive Operation
  | beginFetch
  | completeFetch (result : Fetched)
  | setFilter (text : String)
  | setOnline (online : Bool)

abbrev History := List (Timestamp × Operation)

def datasetsOf (results : List Fetched) : List Dataset := results.filterMap Except.toOption

theorem datasetsOf_fetched (results : List Fetched) (data : Dataset) :
    datasetsOf (results ++ [.ok data]) = datasetsOf results ++ [data] := by
  simp [datasetsOf, Except.toOption]

theorem datasetsOf_failed (results : List Fetched) (failure : Failure) :
    datasetsOf (results ++ [.error failure]) = datasetsOf results := by
  simp [datasetsOf, Except.toOption]

namespace Operation

def isFetch : Operation → Bool
  | beginFetch | completeFetch _ => true
  | setFilter _ | setOnline _ => false

def result? : Operation → Option Fetched
  | completeFetch result => some result
  | _ => none

def text? : Operation → Option String
  | setFilter text => some text
  | _ => none

def report? : Operation → Option Bool
  | setOnline online => some online
  | _ => none

end Operation

namespace History

def fetches (h : History) : History := h.filter (fun entry => entry.2.isFetch)

def results (h : History) : List Fetched := h.filterMap (fun entry => entry.2.result?)

def texts (h : History) : List String := h.filterMap (fun entry => entry.2.text?)

def reports (h : History) : List Bool := h.filterMap (fun entry => entry.2.report?)

variable (h : History) (now : Timestamp) (op : Operation)

@[simp] theorem fetches_concat :
    fetches (h ++ [(now, op)]) = if op.isFetch then h.fetches ++ [(now, op)] else h.fetches := by
  by_cases fetch : op.isFetch <;> simp [fetches, fetch]

@[simp] theorem results_concat : results (h ++ [(now, op)]) = h.results ++ op.result?.toList := by
  cases found : op.result? <;> simp [results, found]

theorem results_append (first second : History) :
    results (first ++ second) = first.results ++ second.results :=
  List.filterMap_append

@[simp] theorem texts_concat : texts (h ++ [(now, op)]) = h.texts ++ op.text?.toList := by
  cases found : op.text? <;> simp [texts, found]

@[simp] theorem reports_concat : reports (h ++ [(now, op)]) = h.reports ++ op.report?.toList := by
  cases found : op.report? <;> simp [reports, found]

structure SameParts (a b : History) : Prop where
  fetches : a.fetches = b.fetches
  texts : a.texts = b.texts
  reports : a.reports = b.reports

end History

namespace State

def after (s : State) (now : Timestamp) : Operation → State
  | .beginFetch => (s.beginFetch? now).getD s
  | .completeFetch result => s.completeFetch now result
  | .setFilter text => (s.setFilter? text).getD s
  | .setOnline online => s.setOnline online

def afterAll (s : State) (h : History) : State := h.foldl (fun s entry => s.after entry.1 entry.2) s

def course : State → History → List State
  | _, [] => []
  | s, (now, op) :: rest => s.after now op :: course (s.after now op) rest

def Proper : State → History → Prop
  | _, [] => True
  | s, (now, op) :: rest => (op.result?.isSome → s.isFetching) ∧ Proper (s.after now op) rest

instance decidableProper : (s : State) → (h : History) → Decidable (s.Proper h)
  | _, [] => .isTrue trivial
  | s, (now, op) :: rest =>
    have := decidableProper (s.after now op) rest
    inferInstanceAs (Decidable ((op.result?.isSome → s.isFetching) ∧ _))

variable (s : State) (now : Timestamp)

theorem isFetching_iff : s.isFetching = true ↔ s.snapshot.phase = .fetching := by
  simp [isFetching, phase]

@[simp] theorem afterAll_nil : s.afterAll [] = s := rfl

theorem afterAll_append (first second : History) :
    s.afterAll (first ++ second) = (s.afterAll first).afterAll second := by
  simp [afterAll, List.foldl_append]

@[simp] theorem afterAll_concat (h : History) (op : Operation) :
    s.afterAll (h ++ [(now, op)]) = (s.afterAll h).after now op := by
  rw [afterAll_append]
  rfl

theorem course_append (first second : History) :
    s.course (first ++ second) = s.course first ++ (s.afterAll first).course second := by
  induction first generalizing s with
  | nil => rfl
  | cons entry rest ih =>
    obtain ⟨now, op⟩ := entry
    simp only [List.cons_append, course, ih]
    rfl

theorem proper_append (first second : History) :
    s.Proper (first ++ second) ↔ s.Proper first ∧ (s.afterAll first).Proper second := by
  induction first generalizing s with
  | nil => simp [Proper]
  | cons entry rest ih =>
    obtain ⟨now, op⟩ := entry
    simp only [List.cons_append, Proper, ih, and_assoc]
    rfl

theorem proper_of_no_results {h : History} (none : h.results = []) : s.Proper h := by
  induction h generalizing s with
  | nil => trivial
  | cons entry rest ih =>
    obtain ⟨now, op⟩ := entry
    rw [← List.singleton_append, History.results_append, List.append_eq_nil_iff] at none
    refine ⟨?_, ih _ none.2⟩
    intro completes
    obtain ⟨result, found⟩ := Option.isSome_iff_exists.1 completes
    simp [History.results, found] at none

theorem after_beginFetch :
    s.after now .beginFetch =
      if s.isFetching then s
      else ⟨{ s.snapshot with
        phase := .fetching
        attempts := s.snapshot.attempts + 1
        lastAttempt := some now }⟩ := by
  by_cases fetching : s.isFetching <;> simp [after, beginFetch?, fetching]

theorem after_setFilter (text : String) :
    s.after now (.setFilter text) =
      if text = s.snapshot.filter then s
      else ⟨{ s.snapshot with filter := text, rows := rowsOf s.snapshot.dataset text }⟩ := by
  by_cases same : text = s.snapshot.filter <;> simp [after, setFilter?, same]

def shownWith (filter : String) (online : Bool) : State :=
  ⟨{ s.snapshot with
    filter := filter
    rows := rowsOf s.snapshot.dataset filter
    online := online }⟩

theorem start_shownWith (initial : Option Dataset) (filter : String) :
    (start now initial filter).shownWith filter true = start now initial filter := rfl

theorem after_shownWith (op : Operation) (fetch : op.isFetch = true) (filter : String)
    (online : Bool) :
    (s.shownWith filter online).after now op = (s.after now op).shownWith filter online := by
  cases op with
  | beginFetch =>
    have same : (s.shownWith filter online).isFetching = s.isFetching := rfl
    rw [after_beginFetch, after_beginFetch, same]
    split <;> rfl
  | completeFetch result => cases result <;> rfl
  | setFilter => simp [Operation.isFetch] at fetch
  | setOnline => simp [Operation.isFetch] at fetch

theorem after_setFilter_shownWith (text filter : String) (online : Bool) :
    (s.shownWith filter online).after now (.setFilter text) = s.shownWith text online := by
  rw [after_setFilter]
  split
  next same =>
    -- The text is refused, but its rows are there already.
    have same : text = filter := same
    rw [same]
  next => rfl

theorem after_setOnline_shownWith (report : Bool) (filter : String) (online : Bool) :
    (s.shownWith filter online).after now (.setOnline report) = s.shownWith filter report := rfl

-- The fetches of a history do all but choose the rows; the last text and report do that.
theorem afterAll_shownWith (h : History) (filter : String) (online : Bool) :
    (s.shownWith filter online).afterAll h =
      (s.afterAll h.fetches).shownWith (h.texts.getLast?.getD filter)
        (h.reports.getLast?.getD online) := by
  -- The last operation is either a fetch, which passes through the choice of rows, or a new choice.
  induction h using List.reverseRecOn with
  | nil => rfl
  | append_singleton h entry ih =>
    obtain ⟨now, op⟩ := entry
    rw [afterAll_concat, ih]
    cases op with
    | beginFetch =>
      rw [after_shownWith _ now .beginFetch rfl]
      simp [Operation.isFetch, Operation.text?, Operation.report?]
    | completeFetch result =>
      rw [after_shownWith _ now (.completeFetch result) rfl]
      simp [Operation.isFetch, Operation.text?, Operation.report?]
    | setFilter text =>
      simp [after_setFilter_shownWith, Operation.isFetch, Operation.text?, Operation.report?]
    | setOnline report =>
      simp [after_setOnline_shownWith, Operation.isFetch, Operation.text?, Operation.report?]

end State

end Leaderboard.Refresh
