import Leaderboard.Command.Fetching
import Leaderboard.Dashboard.Page
import Leaderboard.Proofs.Refresh.Publishing
import Leaderboard.Proofs.Report.Listing
import Leaderboard.Watch.Screen

set_option autoImplicit false

namespace Leaderboard

open Refresh (Actor Moment Plan Run Snapshot State Timestamp)
open Dashboard (RowsQuery RowsView)
open Report (Prints prints_rows)
open Watch (Reported View)

def listing (dataset : Option Dataset) (filter : String) (key : SortKey) (order : SortOrder) :
    List Row :=
  (dataset.map (fun data => sortRows key order (project data filter))).getD []

structure Dashboard.RowsQuery.SortsBy (q : RowsQuery) (display : DisplaySettings) (key : SortKey)
    (order : SortOrder) : Prop where
  key : RowsQuery.known (SortKey.ofName (q.sort.getD display.sortBy)) = .ok key
  order : q.orderFor display = .ok order

theorem SortKey.ofName_name (key : SortKey) : SortKey.ofName key.name = .ok key := by
  cases key with
  | task t => cases t <;> rfl
  | node | responseTime | errorRate => rfl

theorem SortOrder.ofName_orderWord (order : SortOrder) :
    SortOrder.ofName (Dashboard.Page.orderWord order) = .ok order := by
  cases order <;> rfl

theorem Dashboard.RowsQuery.sortsBy_words {q : RowsQuery} {key : SortKey} {order : SortOrder}
    (sort : q.sort = some key.name) (word : q.order = some (Page.orderWord order))
    (display : DisplaySettings) : q.SortsBy display key order where
  key := by rw [sort, Option.getD_some, SortKey.ofName_name, known]
  order := by simp only [orderFor, word, SortOrder.ofName_orderWord, known]

-- The loop has taken up the filter in the snapshot `kept`.
structure RowSurfaces (s kept : Snapshot) (filter : String) (key : SortKey) (order : SortOrder) :
    Prop where
  asked : ∀ (q : RowsQuery) (display : DisplaySettings), q.sort = some key.name →
    q.order = some (Dashboard.Page.orderWord order) → q.SortsBy display key order
  named : ∀ (q : RowsQuery) (display : DisplaySettings), q.filter = some filter →
    q.SortsBy display key order →
    q.resolve s display = .ok ⟨listing s.dataset filter key order, filter, key, order⟩
  unnamed : ∀ (q : RowsQuery) (display : DisplaySettings), q.filter = none →
    q.SortsBy display key order →
    q.resolve kept display = .ok ⟨listing s.dataset filter key order, filter, key, order⟩
  screen : ∀ (v : View) (now : Timestamp) (r : Reported), v.key = key → v.order = order →
    v.printer.format.interactive = true →
    ∃ shown, Prints v.printer (listing s.dataset filter key order) shown ∧
      Watch.render v now r kept =
        (v.printer.clearScreen ++ .line (Watch.statusLine v now kept) ++
          Watch.failureNotice v kept ++
          (if s.isLoaded then
            shown ++ .line ("Filter: '" ++ filter ++ "' (type node addresses, :retry, :quit)")
          else if s.isError then .empty
          else .line "Loading leaderboard..."), r)
  document : ∀ (v : View) (now : Timestamp) (r : Reported), v.key = key → v.order = order →
    v.printer.format.interactive = false → (r.next kept).1 = some .rows →
    s.isLoaded ∧
      Prints v.printer (listing s.dataset filter key order) (Watch.render v now r kept).1
  command : ∀ (c : Command.Context) (fetch : Source → Except Failure Dataset)
    (request : CommandLine.RowsRequest) (source : Source) (data : Dataset),
    request.filter = filter → c.sorting request.sort request.ascending = .ok (key, order) →
    c.source = .ok source → s.dataset = some data → fetch source = .ok data →
    ∃ shown, Prints c.printer (listing s.dataset filter key order) shown ∧
      Command.rowsFrom c fetch request =
        .done (Command.progressAround c.printer source ++ shown)
  same : ∀ (q : RowsQuery) (display : DisplaySettings),
    { q with filter := some s.filter }.resolve s display =
      { q with filter := none }.resolve s display

theorem sortRows_nil (key : SortKey) (order : SortOrder) : sortRows key order [] = [] := by
  simp [sortRows]

theorem sortRows_projected (dataset : Option Dataset) (filter : String) (key : SortKey)
    (order : SortOrder) :
    sortRows key order ((dataset.map (fun data => project data filter)).getD []) =
      listing dataset filter key order := by
  cases dataset <;> simp [listing, sortRows_nil]

namespace Dashboard.RowsQuery

theorem resolve_of_sortsBy {q : RowsQuery} {display : DisplaySettings} {key : SortKey}
    {order : SortOrder} (sorts : q.SortsBy display key order) (s : Snapshot) :
    q.resolve s display =
      .ok ⟨sortRows key order (q.choose s).1, (q.choose s).2, key, order⟩ := by
  simp only [resolve, sorts.key, sorts.order]
  rfl

theorem choose_named {q : RowsQuery} {filter : String} (named : q.filter = some filter)
    (s : Snapshot) :
    q.choose s = ((s.dataset.map (fun data => project data filter)).getD [], filter) := by
  cases found : s.dataset <;> simp [choose, named, found]

theorem choose_unnamed {q : RowsQuery} (unnamed : q.filter = none) (s : Snapshot) :
    q.choose s = (s.rows, s.filter) := by
  simp [choose, unnamed]

end Dashboard.RowsQuery

namespace Watch

theorem Reported.isLoaded_of_rows {r : Reported} {s : Snapshot}
    (rows : (r.next s).1 = some .rows) : s.isLoaded = true := by
  unfold next at rows
  split at rows
  next => cases rows
  next =>
    split at rows
    next => cases rows
    next =>
      split at rows
      next news =>
        simp only [hasNewRows, Bool.and_eq_true] at news
        exact news.1
      next => cases rows

theorem render_people {v : View} (people : v.printer.format.interactive = true)
    (now : Timestamp) (r : Reported) (s : Snapshot) : render v now r s = (screen v now s, r) := by
  simp [render, people]

theorem render_news {v : View} (program : v.printer.format.interactive = false) (now : Timestamp)
    {r : Reported} {s : Snapshot} (rows : (r.next s).1 = some .rows) :
    (render v now r s).1 = v.printer.rows (shownRows v s) := by
  have split : r.next s = (some .rows, (r.next s).2) := Prod.ext rows rfl
  simp only [render, program, document]
  rw [split]
  rfl

end Watch

theorem Command.rowsFrom_fetched {c : Command.Context} {fetch : Source → Except Failure Dataset}
    {request : CommandLine.RowsRequest} {key : SortKey} {order : SortOrder} {source : Source}
    {data : Dataset} (sorting : c.sorting request.sort request.ascending = .ok (key, order))
    (found : c.source = .ok source) (fetched : fetch source = .ok data) :
    rowsFrom c fetch request =
      .done (progressAround c.printer source ++
        c.printer.rows (sortRows key order (project data request.filter))) := by
  simp [rowsFrom, Outcome.orStop, sorting, found, fetched]

namespace Refresh.State

theorem after_setFilter_coherent {seed : Nat} {s : Snapshot} (coherent : s.Coherent seed)
    (now : Timestamp) (text : String) :
    (State.after ⟨s⟩ now (.setFilter text)).snapshot =
      { s with
        filter := text
        rows := (s.dataset.map (fun data => project data text)).getD [] } := by
  rw [after_setFilter]
  split
  next same =>
    -- Nothing is projected anew, but the rows kept are coherent with the filter.
    have same : text = s.filter := same
    rw [same, ← coherent.rows]
  next => cases found : s.dataset <;> simp [rowsOf, found]

end Refresh.State

namespace RowSurfaces

variable {seed : Nat} {s : Snapshot}

theorem of_coherent (coherent : s.Coherent seed) (later : Timestamp) (filter : String)
    (key : SortKey) (order : SortOrder) :
    RowSurfaces s (State.after ⟨s⟩ later (.setFilter filter)).snapshot filter key order := by
  rw [State.after_setFilter_coherent coherent later filter]
  constructor
  case asked => exact fun q display sort word => RowsQuery.sortsBy_words sort word display
  case named =>
    intro q display named sorts
    rw [RowsQuery.resolve_of_sortsBy sorts, RowsQuery.choose_named named, sortRows_projected]
  case unnamed =>
    intro q display unnamed sorts
    rw [RowsQuery.resolve_of_sortsBy sorts, RowsQuery.choose_unnamed unnamed, sortRows_projected]
  case screen =>
    intro v now r key order people
    refine ⟨_, prints_rows v.printer _, ?_⟩
    rw [Watch.render_people people, ← key, ← order]
    simp only [Watch.screen, Watch.shownRows, sortRows_projected]
    rfl
  case document =>
    intro v now r key order program rows
    have loaded := Watch.Reported.isLoaded_of_rows rows
    rw [Watch.render_news program now rows, ← key, ← order, Watch.shownRows, sortRows_projected]
    exact ⟨loaded, prints_rows v.printer _⟩
  case command =>
    intro c fetch request source data filtered sorting found loaded fetched
    refine ⟨_, prints_rows c.printer _, ?_⟩
    rw [Command.rowsFrom_fetched sorting found fetched, filtered, loaded]
    rfl
  case same =>
    intro q display
    have chosen : RowsQuery.choose { q with filter := some s.filter } s =
        RowsQuery.choose { q with filter := none } s := by
      rw [RowsQuery.choose_named rfl, RowsQuery.choose_unnamed rfl, coherent.rows]
    simp only [RowsQuery.resolve, chosen]
    rfl

end RowSurfaces

variable {plan : Plan} {now : Moment} {initial : Option Dataset} {first : String}
  {past : List Refresh.Happening} {a : Actor}

theorem row_surfaces_agree (run : Run (Actor.spawn plan now initial first) past a) {s : Snapshot}
    (reached : s ∈ Run.shown (Actor.spawn plan now initial first) past) (later : Moment)
    (filter : String) (key : SortKey) (order : SortOrder) :
    RowSurfaces s (State.after ⟨s⟩ later.date (.setFilter filter)).snapshot filter key order ∧
      (a.state = ⟨s⟩ → (a.obey later (.setFilter filter)).actor.published =
        (State.after ⟨s⟩ later.date (.setFilter filter)).snapshot) := by
  refine ⟨.of_coherent (run.shown_coherent reached) later.date filter key order, ?_⟩
  intro state
  rw [Actor.obey_setFilter, ← state]
  split
  next same =>
    -- The loop publishes nothing, and what it published last is still current.
    rw [State.after_setFilter, if_pos same]
    exact run.current rfl
  next => rfl

-- A loop that has loaded one node, and a filter that picks it.
theorem row_surfaces_agree_when_loaded :
    let start := Actor.spawn ⟨10, true⟩ ⟨0, ⟨0⟩⟩ none ""
    let data := SortedMap.empty.insert "node1" NodeRecord.empty
    let events : List (Moment × Refresh.Event) :=
      [(⟨0, ⟨0⟩⟩, .tick), (⟨1, ⟨1⟩⟩, .finish 1 (.ok data)), (⟨2, ⟨2⟩⟩, .deliver)]
    ∃ past a s, start.play? events = some (past, a) ∧ s ∈ Run.shown start past ∧
      a.state = ⟨s⟩ ∧ s.dataset = some data ∧
      RowSurfaces s (State.after ⟨s⟩ ⟨3⟩ (.setFilter "node1")).snapshot "node1" .node .ascending ∧
      (a.obey ⟨3, ⟨3⟩⟩ (.setFilter "node1")).actor.published =
        (State.after ⟨s⟩ ⟨3⟩ (.setFilter "node1")).snapshot := by
  intro start data events
  have played : start.play? events = some _ := rfl
  have run := Run.start.play played
  have reached := List.mem_of_getLast? run.latest
  have agree := row_surfaces_agree run reached ⟨3, ⟨3⟩⟩ "node1" .node .ascending
  exact ⟨_, _, _, played, reached, rfl, rfl, agree.1, agree.2 rfl⟩

end Leaderboard
