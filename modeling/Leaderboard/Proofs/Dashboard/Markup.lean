import Leaderboard.Dashboard.Page
import Leaderboard.Proofs.Dashboard.Escaping

set_option autoImplicit false

namespace Leaderboard.Dashboard

open Html

namespace Html

def markupOf (source : String) : List Char := source.toList.filter isMarkup

-- A piece without what its text says.
def Piece.frame : Piece → Piece
  | .markup source => .markup source
  | .text _ => .text ""

def Alike (ps qs : List Piece) : Prop := ps.map Piece.frame = qs.map Piece.frame

theorem Alike.append {ps qs ps' qs' : List Piece} (first : Alike ps qs) (second : Alike ps' qs') :
    Alike (ps ++ ps') (qs ++ qs') := by
  simp only [Alike, List.map_append] at *
  rw [first, second]

theorem Alike.flatMap {α β : Type} {xs : List α} {ys : List β} {f : α → List Piece}
    {g : β → List Piece} (lengths : xs.length = ys.length) (each : ∀ x y, Alike (f x) (g y)) :
    Alike (xs.flatMap f) (ys.flatMap g) := by
  induction xs generalizing ys with
  | nil =>
    rw [List.length_nil, eq_comm, List.length_eq_zero_iff] at lengths
    simp [lengths, Alike]
  | cons x xs ih =>
    cases ys with
    | nil => simp at lengths
    | cons y ys =>
      rw [List.flatMap_cons, List.flatMap_cons]
      exact (each x y).append (ih (by simpa using lengths))

theorem Piece.markup_frame (piece : Piece) :
    piece.frame.chars.filter isMarkup = piece.chars.filter isMarkup := by
  cases piece with
  | markup source => rfl
  | text content => simp only [frame, chars, filter_isMarkup_escape]

theorem markupOf_render (pieces : List Piece) :
    markupOf (render pieces) =
      (pieces.map Piece.frame).flatMap (fun piece => piece.chars.filter isMarkup) := by
  rw [markupOf, render, String.toList_ofList, List.filter_flatMap, List.flatMap_map]
  simp only [Piece.markup_frame]

theorem Alike.markupOf_render {ps qs : List Piece} (alike : Alike ps qs) :
    markupOf (render ps) = markupOf (render qs) := by
  rw [Html.markupOf_render, Html.markupOf_render, alike]

end Html

namespace Page

structure Shape where
  tab : Tab
  refetchOnReconnect : Bool
  loaded : Bool
  failed : Bool
  qos : Bool
  rowCount : Nat
deriving Repr, DecidableEq

def shape (p : Page) : Shape where
  tab := p.tab
  refetchOnReconnect := p.refetchOnReconnect
  loaded := p.snapshot.isLoaded
  failed := p.snapshot.isError
  qos := p.view.rows.any Row.hasQos
  rowCount := p.view.rows.length

section Alike

variable {p q : Page}

theorem alike_headPieces (tab : p.tab = q.tab) : Alike p.headPieces q.headPieces := by
  have reload : Alike p.reloadPieces q.reloadPieces := by
    unfold reloadPieces
    rw [tab]
    cases q.tab <;> rfl
  exact (Alike.append rfl reload).append rfl

theorem alike_navigationPieces (tab : p.tab = q.tab) :
    Alike p.navigationPieces q.navigationPieces := by
  have link : p.tabPieces = q.tabPieces := by
    funext t
    rw [tabPieces, tabPieces, tab]
  rw [navigationPieces, navigationPieces, link]
  rfl

theorem alike_bannerPieces (failed : p.snapshot.isError = q.snapshot.isError) :
    Alike p.bannerPieces q.bannerPieces := by
  unfold Refresh.Snapshot.isError at failed
  unfold bannerPieces
  -- a banner on one page only would be a difference in shape
  cases first : p.snapshot.error <;> cases second : q.snapshot.error <;>
    simp [first, second] at failed
  case none.none => rfl
  case some.some => rfl

theorem alike_rowPieces (showQos : Bool) (r s : Row) :
    Alike (rowPieces p.showStderr showQos r) (rowPieces q.showStderr showQos s) := by
  have cells : Alike
      ((columns showQos).flatMap fun column => cellPieces (figure p.showStderr r column.1))
      ((columns showQos).flatMap fun column => cellPieces (figure q.showStderr s column.1)) :=
    Alike.flatMap rfl fun _ _ => rfl
  exact (Alike.append rfl cells).append rfl

theorem alike_tablePieces (qos : p.view.rows.any Row.hasQos = q.view.rows.any Row.hasQos)
    (rowCount : p.view.rows.length = q.view.rows.length) :
    Alike p.tablePieces q.tablePieces := by
  simp only [tablePieces, qos]
  refine Alike.append (Alike.append (Alike.append (Alike.append rfl ?headers) rfl) ?rows) rfl
  case headers => exact Alike.flatMap rfl fun _ _ => rfl
  case rows => exact Alike.flatMap rowCount fun r s => alike_rowPieces _ r s

theorem alike_benchmarkPieces (same : p.shape = q.shape) :
    Alike p.benchmarkPieces q.benchmarkPieces := by
  have loaded : p.snapshot.isLoaded = q.snapshot.isLoaded := congrArg Shape.loaded same
  have failed : p.snapshot.isError = q.snapshot.isError := congrArg Shape.failed same
  have table : Alike p.tablePieces q.tablePieces :=
    alike_tablePieces (congrArg Shape.qos same) (congrArg Shape.rowCount same)
  have content : Alike p.contentPieces q.contentPieces := by
    unfold contentPieces
    rw [loaded, failed]
    split
    · exact table
    · rfl
  exact ((Alike.append rfl (alike_bannerPieces failed)).append content).append rfl

theorem alike_bodyPieces (same : p.shape = q.shape) : Alike p.bodyPieces q.bodyPieces := by
  have tab : p.tab = q.tab := congrArg Shape.tab same
  unfold bodyPieces
  rw [tab]
  cases q.tab with
  | benchmark => exact alike_benchmarkPieces same
  | about => rfl
  | api => rfl

theorem alike_pieces (same : p.shape = q.shape) : Alike p.pieces q.pieces := by
  have tab : p.tab = q.tab := congrArg Shape.tab same
  have refetch : p.refetchOnReconnect = q.refetchOnReconnect :=
    congrArg Shape.refetchOnReconnect same
  have script : Alike p.scriptPieces q.scriptPieces := by
    rw [scriptPieces, scriptPieces, refetch]
    rfl
  exact (((alike_headPieces tab).append (alike_navigationPieces tab)).append
    (alike_bodyPieces same)).append script

end Alike

-- The texts of a page that somebody else wrote.
inductive Outside (p : Page) : String → Prop
  | filter : Outside p p.view.filter
  | error {message : String} : p.snapshot.error = some message → Outside p message
  | node {r : Row} : r ∈ p.view.rows → Outside p r.node

def Accounted (p : Page) : Piece → Prop
  | .markup _ => True
  | .text content => p.Outside content ∨ Plain content

theorem plain_linkTarget (view : RowsView) (key : SortKey) : Plain (linkTarget view key) := by
  have name : Plain key.name := by
    cases key with
    | task t => cases t <;> simp [SortKey.name, Task.name, plain_iff]
    | _ => simp [SortKey.name, plain_iff]
  have order : Plain (orderWord (linkOrder view key)) := by
    cases linkOrder view key <;> simp [orderWord, plain_iff]
  have query : Plain ("/?filter=" ++ Text.formEncode view.filter) :=
    .append (by simp [plain_iff]) (plain_formEncode _)
  exact (((query.append (by simp [plain_iff])).append name).append (by simp [plain_iff])).append order

theorem plain_figure (showStderr : Bool) (r : Row) {key : SortKey} (number : key ≠ .node) :
    Plain (figure showStderr r key) := by
  have dash : Plain "-" := by simp [plain_iff]
  cases key with
  | node => exact absurd rfl number
  | task t =>
    rw [figure]
    cases r.score? t with
    | none => exact dash
    | some score => exact plain_scoreText showStderr score
  | responseTime =>
    rw [figure]
    cases r.responseTime with
    | none => exact dash
    | some ms => exact plain_latencyText ms
  | errorRate =>
    rw [figure]
    cases r.errorRate with
    | none => exact dash
    | some fraction => exact plain_percentageText fraction

section Accounted

variable {p : Page}

theorem accounted_headPieces : ∀ piece ∈ p.headPieces, p.Accounted piece := by
  have theme : Plain p.theme.name := by cases p.theme <;> simp [Theme.name, plain_iff]
  have reload : ∀ piece ∈ p.reloadPieces, p.Accounted piece := by
    unfold reloadPieces
    cases p.tab with
    | benchmark => simpa [Accounted] using Or.inr (plain_toString p.periodSeconds)
    | _ => simp
  simp only [headPieces, List.forall_mem_append]
  exact ⟨⟨by simp [Accounted], reload⟩, by simp [Accounted, theme]⟩

theorem accounted_navigationPieces : ∀ piece ∈ p.navigationPieces, p.Accounted piece := by
  have link (t : Tab) : ∀ piece ∈ p.tabPieces t, p.Accounted piece := by
    have name : Plain t.name := by cases t <;> simp [Tab.name, plain_iff]
    have label : Plain t.label := by cases t <;> simp [Tab.label, plain_iff]
    simp [tabPieces, Accounted, name, label]
  simp only [navigationPieces, List.forall_mem_append, List.forall_mem_flatMap]
  exact ⟨⟨by simp [Accounted], fun t _ => link t⟩, by simp [Accounted]⟩

theorem accounted_bannerPieces : ∀ piece ∈ p.bannerPieces, p.Accounted piece := by
  unfold bannerPieces
  cases error : p.snapshot.error with
  | none => simp
  | some message =>
    have lead : Plain (if p.snapshot.isLoaded then "Refresh failed, showing previous data. "
        else "Could not load the leaderboard. ") := by
      split <;> simp [plain_iff]
    simp [Accounted, lead, Outside.error error]

theorem plain_header (showQos : Bool) : ∀ column ∈ columns showQos, Plain column.2 := by
  simp only [columns, List.forall_mem_append, List.forall_mem_cons, List.forall_mem_map]
  refine ⟨⟨by simp [plain_iff], fun t _ => ?_⟩, ?_⟩
  · cases t <;> simp [Task.header, plain_iff]
  · cases showQos <;> simp [plain_iff]

theorem accounted_rowPieces (showQos : Bool) {r : Row} (member : r ∈ p.view.rows) :
    ∀ piece ∈ rowPieces p.showStderr showQos r, p.Accounted piece := by
  have cell (key : SortKey) :
      p.Outside (figure p.showStderr r key) ∨ Plain (figure p.showStderr r key) := by
    cases key with
    -- the address is the one cell that is not the program's own
    | node => exact .inl (.node member)
    | _ => exact .inr (plain_figure _ _ (by simp))
  simp only [rowPieces, List.forall_mem_append, List.forall_mem_flatMap]
  exact ⟨⟨by simp [Accounted], fun column _ => by simp [cellPieces, Accounted, cell]⟩,
    by simp [Accounted]⟩

theorem accounted_tablePieces : ∀ piece ∈ p.tablePieces, p.Accounted piece := by
  have header (column : SortKey × String) (member : column ∈ columns (p.view.rows.any Row.hasQos)) :
      ∀ piece ∈ headerPieces p.view column, p.Accounted piece := by
    simp [headerPieces, Accounted, plain_linkTarget, plain_header _ column member]
  simp only [tablePieces, List.forall_mem_append, List.forall_mem_flatMap]
  refine ⟨⟨⟨⟨?_, header⟩, ?_⟩, fun r => accounted_rowPieces _⟩, ?_⟩ <;> simp [Accounted]

theorem accounted_contentPieces : ∀ piece ∈ p.contentPieces, p.Accounted piece := by
  unfold contentPieces
  split
  · exact accounted_tablePieces
  · split <;> simp [Accounted]

theorem accounted_footPieces : ∀ piece ∈ p.footPieces, p.Accounted piece := by
  have updated : Plain p.updatedText := by
    unfold updatedText
    split
    · exact plain_readable _
    · simp [plain_iff]
  have phase : Plain p.snapshot.phase.name := by
    cases p.snapshot.phase <;> simp [Refresh.Phase.name, plain_iff]
  have literal : Plain " of " ∧ Plain " nodes shown. Last updated " ∧ Plain ". Refresh " ∧
      Plain "." := by
    simp [plain_iff]
  obtain ⟨of, shown, refresh, stop⟩ := literal
  have counts := (((plain_toString p.view.rows.length).append of).append
    (plain_toString p.snapshot.nodeCount)).append shown
  have text := (((counts.append updated).append refresh).append phase).append stop
  simp only [footPieces, List.forall_mem_cons]
  exact ⟨trivial, .inr text, trivial, by simp⟩

theorem accounted_apiPieces : ∀ piece ∈ p.apiPieces, p.Accounted piece := by
  have endpoint : ∀ e ∈ endpoints, ∀ piece ∈ endpointPieces e, p.Accounted piece := by
    simp [endpoints, endpointPieces, Accounted, plain_iff]
  simp only [apiPieces, List.forall_mem_append, List.forall_mem_flatMap, List.forall_mem_cons]
  exact ⟨⟨⟨trivial, by simp⟩, endpoint⟩, trivial, .inr (plain_toString _), trivial, by simp⟩

theorem accounted_pieces : ∀ piece ∈ p.pieces, p.Accounted piece := by
  have form : ∀ piece ∈ p.filterForm, p.Accounted piece := by
    simp [filterForm, Accounted, Outside.filter]
  have body : ∀ piece ∈ p.bodyPieces, p.Accounted piece := by
    unfold bodyPieces
    split
    · simp only [benchmarkPieces, List.forall_mem_append]
      exact ⟨⟨⟨form, accounted_bannerPieces⟩, accounted_contentPieces⟩, accounted_footPieces⟩
    · simp [Accounted]
    · exact accounted_apiPieces
  simp only [pieces, List.forall_mem_append]
  exact ⟨⟨⟨accounted_headPieces, accounted_navigationPieces⟩, body⟩,
    by simp [scriptPieces, Accounted]⟩

end Accounted

-- Texts with markup characters before they are escaped are all from outside: figures have none.
theorem markup_fixed {p q : Page} (same : p.shape = q.shape) :
    markupOf p.render = markupOf q.render ∧
      p.pieces.map Piece.frame = q.pieces.map Piece.frame ∧
      (∀ content, Piece.text content ∈ p.pieces → p.Outside content ∨ Plain content) ∧
      (∀ r key, key ≠ .node → Plain (figure p.showStderr r key)) ∧
      (∀ cs, unescape (escape cs) = cs) ∧ Function.Injective escape := by
  have alike := alike_pieces same
  refine ⟨alike.markupOf_render, alike, ?_, ?_, unescape_escape, escape_injective⟩
  · exact fun content member => accounted_pieces _ member
  · exact fun r key number => plain_figure _ r number

-- The filter, the node and the failed request of the second page all try to end their text.
theorem markup_fixed_under_attack :
    let snapshot (message : String) : Refresh.Snapshot :=
      (Refresh.State.completeFetch ⟨1⟩ (.error ⟨.fetch, message⟩)
        (Refresh.State.start ⟨0⟩ (some .empty) "")).snapshot
    let view (node filter : String) : RowsView :=
      ⟨[⟨node, .empty, none, some 0.5⟩], filter, .node, .ascending⟩
    let p : Page := ⟨snapshot "down", view "node1" "", .benchmark, .light, true, ⟨0⟩, true⟩
    let q : Page := ⟨snapshot "</div>", view "<b>" "\"><script>alert('x')</script>", .benchmark,
      .dark, false, ⟨60000000000⟩, true⟩
    p.shape = ⟨.benchmark, true, true, true, true, 1⟩ ∧ p.shape = q.shape ∧
      markupOf p.render = markupOf q.render ∧
      p.pieces.map Piece.frame = q.pieces.map Piece.frame ∧
      q.Outside "Fetch error: </div>" ∧ ¬ Plain "Fetch error: </div>" ∧
      (∀ content, Piece.text content ∈ q.pieces → q.Outside content ∨ Plain content) := by
  intro snapshot view p q
  have same : p.shape = q.shape := rfl
  obtain ⟨markup, frames, -⟩ := markup_fixed same
  obtain ⟨-, -, accounted, -⟩ := markup_fixed same.symm
  exact ⟨rfl, same, markup, frames, .error rfl, by simp [plain_iff], accounted⟩

end Page

end Leaderboard.Dashboard
