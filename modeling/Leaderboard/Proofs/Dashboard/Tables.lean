import Leaderboard.Dashboard.Page
import Leaderboard.Proofs.Dashboard.Escaping
import Leaderboard.Proofs.Text.Split
import Leaderboard.Report.Table

set_option autoImplicit false

namespace Leaderboard

namespace Dashboard.Html

structure Stretch where
  tag : List Char
  text : List Char

namespace Stretch

def chars (s : Stretch) : List Char := '<' :: (s.tag ++ '>' :: s.text)

def ofPart (part : List Char) : Stretch :=
  ⟨part.takeWhile (· != '>'), (part.dropWhile (· != '>')).drop 1⟩

structure Clean (s : Stretch) : Prop where
  opened : '<' ∉ s.tag
  closed : '>' ∉ s.tag
  text : '<' ∉ s.text

def opensCell (s : Stretch) : Bool := s.tag == "td".toList || s.tag == "th".toList

end Stretch

def stretches (source : List Char) : List Stretch :=
  (Text.splitAll '<' source).tail.map Stretch.ofPart

-- Tags inside a cell do not count.
def readCells : List Stretch → List String
  | [] => []
  | s :: rest =>
    if s.opensCell then
      let inside := rest.takeWhile (fun t => t.tag != '/' :: s.tag)
      String.ofList (unescape (s.text ++ inside.flatMap Stretch.text)) :: readCells rest
    else readCells rest

def readRows : List Stretch → List (List String)
  | [] => []
  | s :: rest =>
    if s.tag == "tr".toList then
      readCells (rest.takeWhile (fun t => t.tag != "/tr".toList)) :: readRows rest
    else readRows rest

def readTable (source : String) : List (List String) := readRows (stretches source.toList)

theorem Stretch.ofPart_eq {s : Stretch} (closed : '>' ∉ s.tag) :
    ofPart (s.tag ++ '>' :: s.text) = s := by
  have tag : ∀ c ∈ s.tag, (c != '>') = true := fun c inside =>
    bne_iff_ne.2 fun same => closed (same ▸ inside)
  rw [ofPart, List.takeWhile_append_of_pos tag, List.dropWhile_append_of_pos tag]
  simp

theorem stretches_flatMap_chars {ss : List Stretch} (clean : ∀ s ∈ ss, s.Clean) :
    stretches (ss.flatMap Stretch.chars) = ss := by
  have parts : Text.splitAll '<' (ss.flatMap Stretch.chars) =
      [] :: ss.map (fun s => s.tag ++ '>' :: s.text) := by
    induction ss with
    | nil => rfl
    | cons s ss ih =>
      rw [List.forall_mem_cons] at clean
      have whole : '<' ∉ s.tag ++ '>' :: s.text := by simp [clean.1.opened, clean.1.text]
      rw [List.flatMap_cons, Stretch.chars, List.cons_append, Text.splitAll,
        Text.splitAll_append_of_not_mem whole (ih clean.2)]
      simp
  rw [stretches, parts, List.tail_cons, List.map_map]
  exact (List.map_congr_left fun s inside => Stretch.ofPart_eq (clean s inside).closed).trans
    (List.map_id ss)

theorem Stretch.Clean.of {tag text : List Char} (opened : '<' ∉ tag) (closed : '>' ∉ tag)
    (inside : '<' ∉ text) : (⟨tag, text⟩ : Stretch).Clean := ⟨opened, closed, inside⟩

def cell (content : String) : List Stretch :=
  [⟨"td".toList, escape content.toList⟩, ⟨"/td".toList, []⟩]

def headCell (target header : String) : List Stretch :=
  [⟨"th".toList, []⟩,
    ⟨"a href=\"".toList ++ (escape target.toList ++ ['"']), escape header.toList⟩,
    ⟨"/a".toList, []⟩, ⟨"/th".toList, []⟩]

theorem readCells_cell (content : String) (more : List Stretch) :
    readCells (cell content ++ more) = content :: readCells more := by
  simp [cell, readCells, Stretch.opensCell, unescape_escape]

theorem readCells_headCell (target header : String) (more : List Stretch) :
    readCells (headCell target header ++ more) = header :: readCells more := by
  simp [headCell, readCells, Stretch.opensCell, unescape_escape]

theorem readCells_flatMap {α : Type} {part : α → List Stretch} {content : α → String}
    (one : ∀ a more, readCells (part a ++ more) = content a :: readCells more) (xs : List α) :
    readCells (xs.flatMap part) = xs.map content := by
  induction xs with
  | nil => rfl
  | cons x xs ih => rw [List.flatMap_cons, one, ih, List.map_cons]

def withinRow (s : Stretch) : Bool := s.tag != "tr".toList && s.tag != "/tr".toList

theorem readRows_withinRow {ss : List Stretch} (within : ss.all withinRow = true)
    (more : List Stretch) : readRows (ss ++ more) = readRows more := by
  induction ss with
  | nil => rfl
  | cons s ss ih =>
    rw [List.all_cons, Bool.and_eq_true] at within
    have other : s.tag ≠ "tr".toList := bne_iff_ne.1 (Bool.and_eq_true_iff.1 within.1).1
    rw [List.cons_append, readRows, if_neg (by simpa using other), ih within.2]

def row (cells : List Stretch) (between : List Char) : List Stretch :=
  ⟨"tr".toList, []⟩ :: (cells ++ [⟨"/tr".toList, between⟩])

theorem readRows_row {cells : List Stretch} (within : cells.all withinRow = true)
    (between : List Char) (more : List Stretch) :
    readRows (row cells between ++ more) = readCells cells :: readRows more := by
  have inside : ∀ s ∈ cells, (s.tag != "/tr".toList) = true := fun s listed =>
    (Bool.and_eq_true_iff.1 (List.all_eq_true.1 within s listed)).2
  have whole : (cells ++ ⟨"/tr".toList, between⟩ :: more).takeWhile
      (fun t => t.tag != "/tr".toList) = cells := by
    rw [List.takeWhile_append_of_pos inside]
    simp
  have later : readRows (⟨"/tr".toList, between⟩ :: more) = readRows more := by
    simp [readRows]
  rw [row, List.cons_append, List.append_assoc, List.singleton_append, readRows,
    if_pos (by decide), whole, readRows_withinRow within, later]

theorem readRows_cells {α : Type} (content : α → String) (xs : List α) (between : List Char)
    (more : List Stretch) :
    readRows (row (xs.flatMap (fun a => cell (content a))) between ++ more) =
      xs.map content :: readRows more := by
  have within : (xs.flatMap (fun a => cell (content a))).all withinRow = true := by
    simp [List.all_flatMap, cell, withinRow]
  rw [readRows_row within, readCells_flatMap fun a => readCells_cell (content a)]

theorem readRows_headCells {α : Type} (target header : α → String) (xs : List α)
    (between : List Char) (more : List Stretch) :
    readRows (row (xs.flatMap (fun a => headCell (target a) (header a))) between ++ more) =
      xs.map header :: readRows more := by
  have within : (xs.flatMap (fun a => headCell (target a) (header a))).all withinRow = true := by
    simp [List.all_flatMap, headCell, withinRow]
  rw [readRows_row within, readCells_flatMap fun a => readCells_headCell (target a) (header a)]

end Dashboard.Html

namespace Report

def Cell.text (c : Cell) : String := String.ofList (Text.joinWith '\n' (c.lines.map String.toList))

def headCells (rows : List Row) : List Cell := (headers (anyQos rows)).map (Cell.ofText .left)

def bodyCells (showStderr : Bool) (rows : List Row) : List (List Cell) :=
  rows.map (fun r => cellsOf (cellTexts showStderr (anyQos rows) r))

theorem Cell.text_ofText (alignment : Alignment) (text : String) :
    (ofText alignment text).text = text := by
  simp [Cell.text, ofText, Function.comp_def]

theorem map_text_cellsOf (texts : List String) : (cellsOf texts).map Cell.text = texts := by
  cases texts with
  | nil => rfl
  | cons node figures => simp [cellsOf, Cell.text_ofText, Function.comp_def]

end Report

namespace Dashboard.Page

open Html Report

variable (p : Page)

def tableStretches (p : Page) : List Stretch :=
  let columns := columns (p.view.rows.any Row.hasQos)
  [⟨"table".toList, ['\n']⟩, ⟨"thead".toList, []⟩] ++
  row (columns.flatMap (fun column => headCell (linkTarget p.view column.1) column.2)) [] ++
  [⟨"/thead".toList, ['\n']⟩, ⟨"tbody".toList, ['\n']⟩] ++
  p.view.rows.flatMap (fun r =>
    row (columns.flatMap (fun column => cell (figure p.showStderr r column.1))) ['\n']) ++
  [⟨"/tbody".toList, ['\n']⟩, ⟨"/table".toList, ['\n']⟩]

theorem chars_headerPieces (view : RowsView) (column : SortKey × String) :
    (headerPieces view column).flatMap Piece.chars =
      (headCell (linkTarget view column.1) column.2).flatMap Stretch.chars := by
  simp [headerPieces, headCell, Piece.chars, Stretch.chars]

theorem chars_rowPieces (showStderr showQos : Bool) (r : Row) :
    (rowPieces showStderr showQos r).flatMap Piece.chars =
      (row ((columns showQos).flatMap (fun column => cell (figure showStderr r column.1)))
        ['\n']).flatMap Stretch.chars := by
  have cells (content : String) :
      (cellPieces content).flatMap Piece.chars = (cell content).flatMap Stretch.chars := by
    simp [cellPieces, cell, Piece.chars, Stretch.chars]
  simp [rowPieces, row, List.flatMap_assoc, cells, Piece.chars, Stretch.chars]

theorem toList_render_tablePieces :
    (Html.render p.tablePieces).toList = p.tableStretches.flatMap Stretch.chars := by
  simp [Html.render, tablePieces, tableStretches, row, List.flatMap_assoc, chars_headerPieces,
    chars_rowPieces, Piece.chars, Stretch.chars]

theorem clean_headCell (target header : String) : ∀ s ∈ headCell target header, s.Clean := by
  have escaped (text : String) : '<' ∉ escape text.toList ∧ '>' ∉ escape text.toList :=
    ⟨not_mem_escape _ (by decide), not_mem_escape _ (by decide)⟩
  simp only [headCell, List.forall_mem_cons]
  refine ⟨?_, ?_, ?_, ?_, nofun⟩
  · exact .of (by decide) (by decide) nofun
  · exact .of (by simp [escaped]) (by simp [escaped]) (escaped header).1
  · exact .of (by decide) (by decide) nofun
  · exact .of (by decide) (by decide) nofun

theorem clean_cell (content : String) : ∀ s ∈ cell content, s.Clean := by
  have escaped : '<' ∉ escape content.toList := not_mem_escape _ (by decide)
  simp only [cell, List.forall_mem_cons]
  exact ⟨.of (by decide) (by decide) escaped, .of (by decide) (by decide) nofun, nofun⟩

theorem clean_row {cells : List Stretch} (clean : ∀ s ∈ cells, s.Clean) {between : List Char}
    (blank : '<' ∉ between) : ∀ s ∈ row cells between, s.Clean := by
  simp only [row, List.forall_mem_cons, List.forall_mem_append]
  exact ⟨.of (by decide) (by decide) nofun, clean,
    .of (by decide) (by decide) blank, nofun⟩

theorem clean_tableStretches : ∀ s ∈ p.tableStretches, s.Clean := by
  simp only [tableStretches, List.forall_mem_append, List.forall_mem_cons, List.forall_mem_flatMap,
    List.not_mem_nil, IsEmpty.forall_iff, implies_true, and_true]
  refine ⟨⟨⟨⟨⟨?_, ?_⟩, ?head⟩, ?_, ?_⟩, ?body⟩, ?_, ?_⟩
  case head =>
    refine clean_row (fun s inside => ?_) nofun
    obtain ⟨column, -, inside⟩ := List.mem_flatMap.1 inside
    exact clean_headCell _ _ s inside
  case body =>
    intro r _
    refine clean_row (fun s inside => ?_) (by decide)
    obtain ⟨column, -, inside⟩ := List.mem_flatMap.1 inside
    exact clean_cell _ s inside
  all_goals exact .of (by decide) (by decide) (by decide)

theorem readTable_tablePieces :
    readTable (Html.render p.tablePieces) =
      (columns (p.view.rows.any Row.hasQos)).map Prod.snd ::
        p.view.rows.map (fun r => (columns (p.view.rows.any Row.hasQos)).map (fun column =>
          figure p.showStderr r column.1)) := by
  have body (columns : List (SortKey × String)) (rows : List Row) (more : List Stretch) :
      readRows (rows.flatMap (fun r => row (columns.flatMap (fun column =>
        cell (figure p.showStderr r column.1))) ['\n']) ++ more) =
      rows.map (fun r => columns.map (fun column => figure p.showStderr r column.1)) ++
        readRows more := by
    induction rows with
    | nil => rfl
    | cons r rows ih =>
      rw [List.flatMap_cons, List.append_assoc,
        readRows_cells (fun column : SortKey × String => figure p.showStderr r column.1), ih]
      rfl
  rw [readTable, toList_render_tablePieces, stretches_flatMap_chars p.clean_tableStretches,
    tableStretches]
  simp only [List.append_assoc]
  rw [readRows_withinRow (by decide), readRows_headCells (fun column : SortKey × String =>
    linkTarget p.view column.1) Prod.snd, readRows_withinRow (by decide), body]
  simp [readRows]

theorem map_snd_columns (showQos : Bool) : (columns showQos).map Prod.snd = headers showQos := by
  cases showQos <;> rfl

theorem map_figure_columns (showStderr showQos : Bool) (r : Row) :
    (columns showQos).map (fun column => figure showStderr r column.1) =
      Report.cellTexts showStderr showQos r := by
  cases showQos <;> rfl

theorem mem_headers_iff {header : String} (qos : header ∈ ["Resp. time", "Error rate"])
    (showQos : Bool) : header ∈ headers showQos ↔ showQos = true := by
  simp only [List.mem_cons, List.not_mem_nil, or_false] at qos
  rcases qos with rfl | rfl <;> cases showQos <;> decide

theorem length_cellTexts (showStderr showQos : Bool) (r : Row) :
    (Report.cellTexts showStderr showQos r).length = (headers showQos).length := by
  cases showQos <;> rfl

theorem tables_agree :
    let shown := readTable (Html.render p.tablePieces)
    let head := headCells p.view.rows
    let body := bodyCells p.showStderr p.view.rows
    Report.table p.showStderr p.view.rows = "\n".intercalate (boxLines head body) ∧
      shown = head.map Cell.text :: body.map (List.map Cell.text) ∧
      (∀ header ∈ ["Resp. time", "Error rate"], header ∈ head.map Cell.text ↔
        ∃ r ∈ p.view.rows, r.responseTime.isSome = true ∨ r.errorRate.isSome = true) ∧
      ∀ cells ∈ body, cells.length = head.length := by
  intro shown head body
  have headTexts : head.map Cell.text = headers (anyQos p.view.rows) := by
    simp [head, headCells, Cell.text_ofText, Function.comp_def]
  have bodyTexts : body.map (List.map Cell.text) =
      p.view.rows.map (Report.cellTexts p.showStderr (anyQos p.view.rows)) := by
    simp [body, bodyCells, map_text_cellsOf, Function.comp_def]
  refine ⟨rfl, ?same, ?qos, ?lengths⟩
  case same =>
    have source := p.readTable_tablePieces
    simp only [map_snd_columns, map_figure_columns] at source
    rw [headTexts, bodyTexts]
    exact source
  case qos =>
    intro header qos
    rw [headTexts, mem_headers_iff qos]
    simp [anyQos, Row.hasQos]
  case lengths =>
    intro cells listed
    obtain ⟨r, -, rfl⟩ := List.mem_map.1 listed
    have texts := congrArg List.length
      (map_text_cellsOf (Report.cellTexts p.showStderr (anyQos p.view.rows) r))
    rw [List.length_map, length_cellTexts] at texts
    simpa [head, headCells] using texts

-- One row has an error rate and no response time, the other one has nothing but its address.
theorem tables_agree_on_partial_figures :
    let rows : List Row := [⟨"<a> & \"b\"", SortedMap.empty, none, some 0.25⟩,
      ⟨"c", SortedMap.empty, none, none⟩]
    let p : Page := ⟨(Refresh.State.start ⟨0⟩ none "").snapshot, ⟨rows, "", .node, .ascending⟩,
      .benchmark, .light, true, ⟨60⟩, true⟩
    let shown := readTable (Html.render p.tablePieces)
    shown.head? = some ["Node", "Average", "ARC", "HellaSwag", "MMLU", "TruthfulQA", "Winogrande",
        "GSM8K", "Resp. time", "Error rate"] ∧
      shown.map List.length = [10, 10, 10] ∧
      shown.map List.head? = [some "Node", some "<a> & \"b\"", some "c"] := by
  intro rows p shown
  have table : shown = _ := (tables_agree p).2.1
  rw [table]
  exact ⟨rfl, rfl, rfl⟩

end Dashboard.Page

end Leaderboard
