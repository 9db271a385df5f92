import Leaderboard.Dashboard.Router
import Leaderboard.Proofs.Dashboard.Escaping
import Leaderboard.Proofs.Row.Sorting
import Leaderboard.Proofs.Row.Surfaces
import Leaderboard.Proofs.Text.FormEncoding

set_option autoImplicit false

namespace Leaderboard.Dashboard

open Html (Piece)
open Refresh (Actor Moment Plan Run Snapshot)

def headOpening : List Char := "<th><a href=\"".toList

def headLinks : List Char → List (List Char)
  | [] => []
  | c :: rest =>
    if headOpening.isPrefixOf (c :: rest) then
      ((c :: rest).drop headOpening.length).takeWhile (· != '"') :: headLinks rest
    else headLinks rest

namespace Html

-- No link begins in the part, whatever comes after it.
def quiet : List Char → Bool
  | [] => true
  | c :: rest =>
    !(headOpening.isPrefixOf (c :: rest) || (c :: rest).isPrefixOf headOpening) && quiet rest

theorem not_opens_append {c : Char} {rest : List Char} (still : quiet (c :: rest) = true)
    (ys : List Char) : headOpening.isPrefixOf (c :: rest ++ ys) = false ∧
      (c :: rest ++ ys).isPrefixOf headOpening = false := by
  simp only [quiet, Bool.and_eq_true, Bool.not_eq_true', Bool.or_eq_false_iff] at still
  simp only [Bool.eq_false_iff, ne_eq, List.isPrefixOf_iff_prefix] at still ⊢
  have whole : c :: rest <+: c :: rest ++ ys := List.prefix_append _ ys
  refine ⟨fun opens => ?_, fun begins => still.1.2 (whole.trans begins)⟩
  exact (List.prefix_or_prefix_of_prefix opens whole).elim still.1.1 still.1.2

theorem headLinks_append_of_quiet {xs : List Char} (still : quiet xs = true) (ys : List Char) :
    headLinks (xs ++ ys) = headLinks ys := by
  induction xs with
  | nil => rfl
  | cons c rest ih =>
    have here := (not_opens_append still ys).1
    rw [List.cons_append] at here ⊢
    rw [headLinks, here]
    exact ih (Bool.and_eq_true_iff.1 still).2

theorem quiet_append {xs ys : List Char} (first : quiet xs = true) (second : quiet ys = true) :
    quiet (xs ++ ys) = true := by
  induction xs with
  | nil => exact second
  | cons c rest ih =>
    obtain ⟨here, begins⟩ := not_opens_append first ys
    rw [List.cons_append] at here begins ⊢
    rw [quiet, here, begins, ih (Bool.and_eq_true_iff.1 first).2]
    rfl

-- The kernel reads the characters off a literal, but is slow to decode its bytes.
theorem quiet_literal {cs : List Char} (still : quiet cs = true) :
    quiet (String.ofList cs).toList = true := by
  rwa [String.toList_ofList]

theorem quiet_of_not_mem {xs : List Char} (closed : '<' ∉ xs) : quiet xs = true := by
  induction xs with
  | nil => rfl
  | cons c rest ih =>
    rw [List.mem_cons, not_or] at closed
    have opening : headOpening = '<' :: headOpening.tail := by decide
    rw [quiet, ih closed.2, opening]
    simp [List.isPrefixOf, closed.1, Ne.symm closed.1]

theorem quiet_escape (cs : List Char) : quiet (escape cs) = true :=
  quiet_of_not_mem (not_mem_escape cs (by decide))

theorem headLinks_opening {cs : List Char} (closed : '"' ∉ cs) (ys : List Char) :
    headLinks (headOpening ++ (cs ++ ("\">".toList ++ ys))) =
      cs :: headLinks (cs ++ ("\">".toList ++ ys)) := by
  obtain ⟨rest, opening, still⟩ : ∃ rest, headOpening = '<' :: rest ∧ quiet rest = true :=
    ⟨headOpening.tail, by decide, by decide⟩
  have here : headOpening.isPrefixOf ('<' :: (rest ++ (cs ++ ("\">".toList ++ ys)))) = true := by
    rw [List.isPrefixOf_iff_prefix, opening]
    exact List.prefix_append _ _
  have length : headOpening.length = rest.length + 1 := by rw [opening]; rfl
  have address : (cs ++ ("\">".toList ++ ys)).takeWhile (· != '"') = cs := by
    rw [List.takeWhile_append_of_pos]
    · simp
    · exact fun c inside => bne_iff_ne.2 fun same => closed (same ▸ inside)
  conv_lhs => rw [opening, List.cons_append, headLinks, if_pos here]
  rw [length, List.drop_succ_cons, List.drop_left, address, headLinks_append_of_quiet still]

-- Text opens no tag once it is escaped.
def Piece.silent : Piece → Bool
  | .markup source => quiet source.toList
  | .text _ => true

abbrev Silent (ps : List Piece) : Prop := ps.all Piece.silent = true

theorem Silent.cons {p : Piece} {ps : List Piece} (first : p.silent = true) (later : Silent ps) :
    Silent (p :: ps) := by
  rw [Silent, List.all_cons, first, later, Bool.and_self]

theorem Silent.append {ps qs : List Piece} (first : Silent ps) (second : Silent qs) :
    Silent (ps ++ qs) := by
  rw [Silent, List.all_append, first, second, Bool.and_self]

theorem Silent.flatMap {α : Type} {xs : List α} {f : α → List Piece} (each : ∀ x, Silent (f x)) :
    Silent (xs.flatMap f) := by
  rw [Silent, List.all_flatMap, List.all_eq_true]
  exact fun x _ => each x

theorem headLinks_of_silent {ps : List Piece} (silent : Silent ps) (ys : List Char) :
    headLinks (ps.flatMap Piece.chars ++ ys) = headLinks ys := by
  induction ps with
  | nil => rfl
  | cons p ps ih =>
    rw [Silent, List.all_cons, Bool.and_eq_true] at silent
    rw [List.flatMap_cons, List.append_assoc]
    cases p with
    | markup source => exact (headLinks_append_of_quiet silent.1 _).trans (ih silent.2)
    | text content => exact (headLinks_append_of_quiet (quiet_escape _) _).trans (ih silent.2)

end Html

namespace Page

open Html

theorem headLinks_headerPieces (view : RowsView) (column : SortKey × String) (ys : List Char) :
    headLinks ((headerPieces view column).flatMap Piece.chars ++ ys) =
      escape (linkTarget view column.1).toList :: headLinks ys := by
  have source : (headerPieces view column).flatMap Piece.chars ++ ys =
      headOpening ++ (escape (linkTarget view column.1).toList ++ ("\">".toList ++
        (escape column.2.toList ++ ("</a></th>".toList ++ ys)))) := by
    simp only [headerPieces, List.flatMap_cons, List.flatMap_nil, Piece.chars, List.append_assoc,
      List.append_nil]
    rfl
  have closed : '"' ∉ escape (linkTarget view column.1).toList := not_mem_escape _ (by decide)
  rw [source, headLinks_opening closed, headLinks_append_of_quiet (quiet_escape _),
    headLinks_append_of_quiet (by decide), headLinks_append_of_quiet (quiet_escape _),
    headLinks_append_of_quiet (by decide)]

theorem headLinks_headers (view : RowsView) (columns : List (SortKey × String)) (ys : List Char) :
    headLinks ((columns.flatMap (headerPieces view)).flatMap Piece.chars ++ ys) =
      columns.map (fun column => escape (linkTarget view column.1).toList) ++ headLinks ys := by
  induction columns with
  | nil => rfl
  | cons column columns ih =>
    rw [List.flatMap_cons, List.flatMap_append, List.append_assoc, headLinks_headerPieces, ih]
    rfl

variable (p : Page)

theorem not_mem_literal {c : Char} {cs : List Char} (outside : c ∉ cs) :
    c ∉ (String.ofList cs).toList := by
  rwa [String.toList_ofList]

theorem closed_style : ∀ line ∈ Assets.style, '<' ∉ line.toList := by
  simp only [Assets.style, List.forall_mem_cons, String.toList_append, List.mem_append, not_or]
  and_intros <;> first | exact not_mem_literal (by decide) | exact nofun

theorem closed_script : ∀ line ∈ Assets.script, '<' ∉ line.toList := by
  simp only [Assets.script, List.forall_mem_cons]
  and_intros <;> first | exact not_mem_literal (by decide) | exact nofun

theorem quiet_joinLines {lines : List String} (closed : ∀ line ∈ lines, '<' ∉ line.toList) :
    quiet (Assets.joinLines lines).toList = true := by
  refine quiet_of_not_mem ?_
  induction lines with
  | nil => exact List.not_mem_nil
  | cons line lines ih =>
    rw [List.forall_mem_cons] at closed
    simpa [Assets.joinLines, String.join_cons, closed.1] using ih closed.2

theorem silent_headPieces : Silent p.headPieces := by
  have reload : Silent p.reloadPieces := by
    unfold reloadPieces
    cases p.tab <;> rfl
  have style : Piece.silent (.markup (Assets.joinLines Assets.style)) = true :=
    quiet_joinLines closed_style
  exact (Silent.append rfl reload).append (.cons rfl (.cons style rfl))

theorem silent_navigationPieces : Silent p.navigationPieces := by
  have link (t : Tab) : Silent (p.tabPieces t) := by
    unfold tabPieces
    split <;> rfl
  exact (Silent.append rfl (.flatMap fun t => link t)).append rfl

theorem silent_bannerPieces : Silent p.bannerPieces := by
  unfold bannerPieces
  split <;> rfl

theorem silent_scriptPieces : Silent p.scriptPieces := by
  have script : Piece.silent (.markup (Assets.joinLines Assets.script)) = true :=
    quiet_joinLines closed_script
  have reconnect : Piece.silent (.markup (if p.refetchOnReconnect then
      Assets.joinLines Assets.reconnectScript else "")) = true := by
    split
    · exact quiet_joinLines (by simp [Assets.reconnectScript])
    · rfl
  exact .cons rfl (.cons script (.cons reconnect rfl))

theorem silent_rowPieces (showStderr showQos : Bool) (r : Row) :
    Silent (rowPieces showStderr showQos r) :=
  (Silent.append rfl (.flatMap fun _ => rfl)).append rfl

theorem headLinks_tablePieces (ys : List Char) :
    headLinks (p.tablePieces.flatMap Piece.chars ++ ys) =
      (columns (p.view.rows.any Row.hasQos)).map
        (fun column => escape (linkTarget p.view column.1).toList) ++ headLinks ys := by
  have head : Silent [.markup "<table>\n<thead><tr>"] := rfl
  have between : Silent [.markup "</tr></thead>\n<tbody>\n"] := rfl
  have rows : Silent (p.view.rows.flatMap (rowPieces p.showStderr (p.view.rows.any Row.hasQos))) :=
    .flatMap fun r => silent_rowPieces _ _ r
  have foot : Silent [.markup "</tbody>\n</table>\n"] := rfl
  simp only [tablePieces, List.append_assoc, List.flatMap_append]
  rw [headLinks_of_silent head, headLinks_headers, headLinks_of_silent between,
    headLinks_of_silent rows, headLinks_of_silent foot]

theorem silent_footPieces : Silent p.footPieces := .cons rfl (.cons rfl (.cons rfl rfl))

theorem headLinks_render (tab : p.tab = .benchmark) :
    headLinks p.render.toList =
      (if p.snapshot.isLoaded then columns (p.view.rows.any Row.hasQos) else []).map
        (fun column => escape (linkTarget p.view column.1).toList) := by
  have form : Silent p.filterForm := by
    refine .cons ?_ (.cons rfl (.cons rfl rfl))
    rw [Piece.silent, String.toList_append, String.toList_append]
    exact quiet_append (quiet_append (quiet_literal (by decide)) (quiet_literal (by decide)))
      (quiet_literal (by decide))
  have foot : headLinks ((p.footPieces ++ p.scriptPieces).flatMap Piece.chars) = [] := by
    simpa [headLinks] using headLinks_of_silent (p.silent_footPieces.append p.silent_scriptPieces) []
  have source : p.render.toList = (p.headPieces ++ p.navigationPieces ++
      (p.filterForm ++ p.bannerPieces)).flatMap Piece.chars ++ (p.contentPieces.flatMap Piece.chars ++
        (p.footPieces ++ p.scriptPieces).flatMap Piece.chars) := by
    simp [render, Html.render, pieces, bodyPieces, tab, benchmarkPieces]
  rw [source, headLinks_of_silent ((p.silent_headPieces.append p.silent_navigationPieces).append
    (form.append p.silent_bannerPieces)), contentPieces]
  split
  next loaded => rw [headLinks_tablePieces, foot, List.append_nil]
  next =>
    split
    next => rw [List.flatMap_nil, List.nil_append, foot, List.map_nil]
    next => rw [headLinks_of_silent rfl, foot, List.map_nil]

end Page

theorem isQueryChar_of_isFormChar {c : Char} (form : Text.isFormChar c = true) :
    Target.isQueryChar c = true := by
  simp only [Text.isFormChar, Bool.or_eq_true, beq_iff_eq] at form
  rcases form with (rfl | rfl) | plain
  · rfl
  · rfl
  · have range := (Text.isPlainChar_iff c).1 plain
    simp only [Target.isQueryChar, Bool.or_eq_true, Bool.and_eq_true, beq_iff_eq,
      decide_eq_true_eq]
    omega

theorem legal_formQuery {pairs : List (String × String)} :
    ∀ c ∈ (Text.formQuery pairs).toList, Target.isQueryChar c = true ∧ c ≠ '#' := by
  intro c inside
  rcases Text.mem_formQuery inside with rfl | rfl | form
  · decide
  · decide
  · refine ⟨isQueryChar_of_isFormChar form, ?_⟩
    rintro rfl
    cases form

theorem Target.ofChars_query {query : String}
    (legal : ∀ c ∈ query.toList, isQueryChar c = true ∧ c ≠ '#') :
    ofChars? ("/?" ++ query).toList = some ⟨"/", query⟩ := by
  have whole : query.toList.takeWhile (fun c => c != '#') = query.toList :=
    List.takeWhile_eq_self_iff.2 fun c inside => bne_iff_ne.2 (legal c inside).2
  have all : query.toList.all isQueryChar = true :=
    List.all_eq_true.2 fun c inside => (legal c inside).1
  have target : ("/?" ++ query).toList = '/' :: '?' :: query.toList := by simp
  rw [target]
  simp [ofChars?, ofPath?, whole, all, isPathChar]

namespace Page

theorem plain_name (key : SortKey) : key.name.toList.all Text.isPlainChar = true := by
  cases key with
  | task t => cases t <;> decide
  | node | responseTime | errorRate => decide

theorem plain_orderWord (order : SortOrder) :
    (orderWord order).toList.all Text.isPlainChar = true := by
  cases order <;> decide

def linkPairs (view : RowsView) (key : SortKey) : List (String × String) :=
  [("filter", view.filter), ("sort", key.name), ("order", orderWord (linkOrder view key))]

theorem linkTarget_eq (view : RowsView) (key : SortKey) :
    linkTarget view key = "/?" ++ Text.formQuery (linkPairs view key) := by
  have word {text : String} (plain : text.toList.all Text.isPlainChar = true) :=
    Text.formEncode_of_plain plain
  have filter : Text.formEncode "filter" = "filter" := word (by decide)
  have sort : Text.formEncode "sort" = "sort" := word (by decide)
  have order : Text.formEncode "order" = "order" := word (by decide)
  simp [linkTarget, linkPairs, Text.formQuery, Text.writtenPair, Text.joinWith, filter, sort, order,
    word (plain_name key), word (plain_orderWord _), ← String.toList_inj]

def linkQuery (view : RowsView) (key : SortKey) : RowsQuery :=
  ⟨some view.filter, some key.name, some (orderWord (linkOrder view key)), none⟩

theorem ofText_formQuery_linkPairs (view : RowsView) (key : SortKey) :
    RowsQuery.ofText? (Text.formQuery (linkPairs view key)) = some (linkQuery view key) := by
  simp [RowsQuery.ofText?, Text.formPairs_formQuery, linkPairs, linkQuery, RowsQuery.valuesOf,
    RowsQuery.single]

end Page

section following

variable {seed : Nat} {s : Snapshot} {display : DisplaySettings} {q : RowsQuery} {view : RowsView}

theorem RowsQuery.resolve_eq_ok (resolved : q.resolve s display = .ok view) :
    view.rows = sortRows view.key view.order (q.choose s).1 ∧ view.filter = (q.choose s).2 := by
  simp only [resolve, bind, Except.bind] at resolved
  split at resolved
  next => cases resolved
  next =>
    split at resolved
    next => cases resolved
    next =>
      cases resolved
      exact ⟨rfl, rfl⟩

theorem RowsQuery.rows_eq_listing (coherent : s.Coherent seed)
    (resolved : q.resolve s display = .ok view) :
    view.rows = listing s.dataset view.filter view.key view.order := by
  obtain ⟨rows, filter⟩ := resolve_eq_ok resolved
  rw [rows, filter, ← sortRows_projected]
  cases asked : q.filter with
  | some text => rw [choose_named asked]
  | none =>
    -- the rows that the snapshot keeps, picked by its own filter
    rw [choose_unnamed asked, coherent.rows]

theorem perm_listing (dataset : Option Dataset) (filter : String) (key other : SortKey)
    (order turned : SortOrder) :
    (listing dataset filter key order).Perm (listing dataset filter other turned) := by
  rw [← sortRows_projected, ← sortRows_projected]
  exact (perm_sortRows _ _ _).trans (perm_sortRows _ _ _).symm

theorem mem_listing {dataset : Option Dataset} {filter : String} {key : SortKey}
    {order : SortOrder} {row : Row} :
    row ∈ listing dataset filter key order ↔
      ∃ data, dataset = some data ∧ row ∈ project data filter := by
  rw [← sortRows_projected, (perm_sortRows _ _ _).mem_iff]
  cases dataset <;> simp

theorem arranged_listing {dataset : Option Dataset} {filter : String} {key other : SortKey}
    {turned : SortOrder}
    (comparable : ∀ row ∈ listing dataset filter other turned, row.Comparable key)
    (order : SortOrder) : Arranged key order (listing dataset filter key order) := by
  rw [← sortRows_projected]
  cases dataset with
  | none =>
    have empty : (([] : List Row).map Row.node).Nodup := List.nodup_nil
    exact arranged_sortRows empty nofun order
  | some data =>
    refine arranged_sortRows (distinct_projectWith data _) (fun row shown => ?_) order
    exact comparable row (mem_listing.2 ⟨data, rfl, shown⟩)

-- A column that was shown in descending order turns around; any other one descends.
structure RowsView.Turned (view : RowsView) (key : SortKey) (next : RowsView) : Prop where
  filter : next.filter = view.filter
  rows : next.rows.Perm view.rows
  column : next.key = key
  direction : next.order =
    if key = view.key ∧ view.order = .descending then .ascending else .descending
  sorted : (∀ row ∈ view.rows, row.Comparable key) → Arranged key next.order next.rows

-- The link is followed whatever its length is; a request for it is read if it is not too long.
def Context.LinkTurns (c : Context) (view : RowsView) (key : SortKey) (link : List Char) : Prop :=
  ∃ (query : String) (q : RowsQuery) (next : RowsView),
    Target.ofChars? (Html.unescape link) = some ⟨"/", query⟩ ∧
      ((String.ofList (Html.unescape link)).utf8ByteSize ≤ Target.maxLength →
        Target.ofText? (String.ofList (Html.unescape link)) = some ⟨"/", query⟩) ∧
      RowsQuery.ofText? query = some q ∧ Tab.ofQuery q.tab = .benchmark ∧
      q.resolve c.snapshot c.display = .ok next ∧ view.Turned key next

theorem Context.linkTurns_linkTarget {c : Context} (coherent : c.snapshot.Coherent seed)
    (resolved : q.resolve c.snapshot c.display = .ok view) (key : SortKey) :
    c.LinkTurns view key (Html.escape (Page.linkTarget view key).toList) := by
  have sorts : (Page.linkQuery view key).SortsBy c.display key (Page.linkOrder view key) :=
    RowsQuery.sortsBy_words rfl rfl _
  have next := RowsQuery.resolve_of_sortsBy sorts c.snapshot
  rw [RowsQuery.choose_named rfl, sortRows_projected] at next
  have followed : Target.ofChars? (Html.unescape (Html.escape (Page.linkTarget view key).toList)) =
      some ⟨"/", Text.formQuery (Page.linkPairs view key)⟩ := by
    rw [Html.unescape_escape, Page.linkTarget_eq]
    exact Target.ofChars_query legal_formQuery
  refine ⟨_, Page.linkQuery view key, _, followed, fun short => ?_,
    Page.ofText_formQuery_linkPairs view key, rfl, next, ?_⟩
  · rw [Target.ofText?, if_pos short, String.toList_ofList, followed]
  · refine ⟨rfl, ?_, rfl, rfl, ?_⟩ <;> rw [RowsQuery.rows_eq_listing coherent resolved]
    · exact perm_listing _ _ _ _ _ _
    · exact fun comparable => arranged_listing comparable _

theorem Context.page_resolved {c : Context} {r : Request}
    (query : RowsQuery.ofText? r.target.query = some q)
    (resolved : q.resolve c.snapshot c.display = .ok view) :
    c.page r = .html 200 (Page.render
      ⟨c.snapshot, view, Tab.ofQuery q.tab, c.themeFor r, c.display.showStderr, c.period,
        c.refetchOnReconnect⟩) := by
  rw [page, query]
  simp only [resolved]

end following

variable {plan : Plan} {now : Moment} {initial : Option Dataset} {first : String}
  {past : List Refresh.Happening} {a : Actor}

-- If all that was loaded was read from payloads, every column can be sorted by.
theorem head_links_turn (run : Run (Actor.spawn plan now initial first) past a) {c : Context}
    (reached : c.snapshot ∈ Run.shown (Actor.spawn plan now initial first) past) {r : Request}
    {q : RowsQuery} {view : RowsView} (query : RowsQuery.ofText? r.target.query = some q)
    (tab : Tab.ofQuery q.tab = .benchmark)
    (resolved : q.resolve c.snapshot c.display = .ok view) :
    (c.page r).status = 200 ∧
      List.Forall₂ (fun column link => c.LinkTurns view column.1 link)
        (if c.snapshot.isLoaded then Page.columns (view.rows.any Row.hasQos) else [])
        (headLinks (c.page r).body.toList) ∧
      ((∀ data, initial = some data ∨ data ∈ Refresh.datasetsOf (Run.history past).results →
          ∃ payload, Dataset.parse payload = .ok data) →
        ∀ key, ∀ row ∈ view.rows, row.Comparable key) := by
  have coherent := run.shown_coherent reached
  refine ⟨?_, ?_, ?_⟩
  · rw [Context.page_resolved query resolved]
    rfl
  · have links := Page.headLinks_render ⟨c.snapshot, view, Tab.ofQuery q.tab, c.themeFor r,
      c.display.showStderr, c.period, c.refetchOnReconnect⟩ tab
    rw [Context.page_resolved query resolved, Response.html, links, List.forall₂_map_right_iff,
      List.forall₂_same]
    exact fun column _ => Context.linkTurns_linkTarget coherent resolved column.1
  · intro read key row shown
    rw [RowsQuery.rows_eq_listing coherent resolved] at shown
    obtain ⟨data, loaded, shown⟩ := mem_listing.1 shown
    obtain ⟨payload, read⟩ := read data (run.shown_dataset reached loaded)
    exact comparable_projectWith (Dataset.finite_of_parse read) _ key row shown

-- One node is shown, under a filter that cannot stand in a query as it is.
theorem head_links_turn_awkward_filter :
    let start := Actor.spawn ⟨10, true⟩ ⟨0, ⟨0⟩⟩ none ""
    let data : Dataset := SortedMap.empty.insert "node1" NodeRecord.empty
    let events : List (Moment × Refresh.Event) :=
      [(⟨0, ⟨0⟩⟩, .tick), (⟨1, ⟨1⟩⟩, .finish 1 (.ok data)), (⟨2, ⟨2⟩⟩, .deliver)]
    let filter := "node1, a&b+c%d=\"é\""
    let q : RowsQuery := ⟨some filter, some "node", some "desc", none⟩
    let query := Text.formQuery [("filter", filter), ("sort", "node"), ("order", "desc")]
    let view : RowsView := ⟨listing (some data) filter .node .descending, filter, .node, .descending⟩
    ∃ (past : List Refresh.Happening) (a : Actor) (c : Context),
      start.play? events = some (past, a) ∧ c.snapshot ∈ Run.shown start past ∧
      RowsQuery.ofText? query = some q ∧ Tab.ofQuery q.tab = .benchmark ∧
      q.resolve c.snapshot c.display = .ok view ∧
      (c.page ⟨"GET", ⟨"/", query⟩, [], ""⟩).status = 200 ∧
      List.Forall₂ (fun column link => c.LinkTurns view column.1 link)
        (Page.columns (view.rows.any Row.hasQos))
        (headLinks (c.page ⟨"GET", ⟨"/", query⟩, [], ""⟩).body.toList) ∧
      Refresh.datasetsOf (Run.history past).results = [data] ∧
      Dataset.parse (Text.encode data.toJson.compact) = .ok data ∧
      ∀ key, ∀ row ∈ view.rows, row.Comparable key := by
  intro start data events filter q query view
  have played : start.play? events = some _ := rfl
  have run := Run.start.play played
  have reached := List.mem_of_getLast? run.latest
  have read : RowsQuery.ofText? query = some q := by
    simp [RowsQuery.ofText?, query, q, Text.formPairs_formQuery, RowsQuery.valuesOf,
      RowsQuery.single]
  have sorts : q.SortsBy ⟨false, "node", false⟩ .node .descending :=
    RowsQuery.sortsBy_words rfl rfl _
  have resolved := RowsQuery.resolve_of_sortsBy sorts
  let c (s : Snapshot) : Context := ⟨s, .light, ⟨false, "node", false⟩, ⟨0⟩, false⟩
  obtain ⟨status, links, comparable⟩ := head_links_turn (r := ⟨"GET", ⟨"/", query⟩, [], ""⟩) run
    (c := c _) reached read rfl (resolved _)
  have finite : data.Finite :=
    Dataset.finite_empty.insert "node1"
      ⟨fun _ _ stored => (nomatch stored), fun _ known => nomatch known⟩
  have parsed := Dataset.parse_compact finite
  refine ⟨_, _, c _, played, reached, read, rfl, resolved _, status, links, rfl, parsed,
    comparable fun d loaded => ⟨Text.encode data.toJson.compact, ?_⟩⟩
  have only : d ∈ [data] := loaded.resolve_left nofun
  rw [List.mem_singleton.1 only]
  exact parsed

end Leaderboard.Dashboard
