import Leaderboard.Proofs.Report.Detail
import Leaderboard.Report.Printer

set_option autoImplicit false

namespace Leaderboard

open Report

theorem listed_map {α β : Type} (f : α → β) (fields : List (String × Option α)) :
    listed (fields.map (fun field => (field.1, field.2.map f))) =
      (listed fields).map (fun field => (field.1, f field.2)) := by
  simp only [listed, List.filterMap_map, List.map_filterMap, Function.comp_def, Option.map_map]

namespace Row

variable (r : Row)

def figures : List (String × Option Float) :=
  Task.all.flatMap (fun t => [(t.name, (r.score? t).map Score.shownValue),
    (t.stderrName, (r.score? t).map Score.shownStderr)]) ++
  [("response_time", r.responseTime), ("error_rate", r.errorRate)]

def pairs : List (String × Option String) :=
  ("Node", some r.node) :: Task.all.map (fun t => (t.header, (r.score? t).map (scoreText true))) ++
  [("Resp. time", r.responseTime.map latencyText), ("Error rate", r.errorRate.map percentageText)]

def figureTexts (showStderr showQos : Bool) : List (Option String) :=
  Task.all.map (fun t => (r.score? t).map (scoreText showStderr)) ++
  if showQos then [r.responseTime.map latencyText, r.errorRate.map percentageText] else []

def jsonField (name value : String) : String := "\n    \"" ++ name ++ "\": " ++ value

def jsonEntry : String :=
  "\n  \x7b" ++ ",".intercalate (jsonField "node" (Json.textLiteral r.node) ::
    (listed r.figures).map (fun f => jsonField f.1 (Json.realText f.2))) ++ "\n  \x7d"

def yamlEntry : String :=
  "- node: " ++ Yaml.closeLine (Yaml.textScalar 4 r.node) ++
    String.join ((listed r.figures).map (fun f =>
      "  " ++ f.1 ++ ": " ++ Yaml.numberLayout.render f.2 ++ "\n"))

def textEntry : String :=
  String.join ((listed r.pairs).map (fun pair => pair.1 ++ ": " ++ pair.2 ++ "\n"))

theorem members_eq : r.members =
    ("node", .text r.node) :: (listed r.figures).map (fun f => (f.1, .real f.2)) := by
  have fields : r.fields = ("node", some (.text r.node)) ::
      r.figures.map (fun f => (f.1, f.2.map Json.real)) := by
    simp [Row.fields, figures, List.map_flatMap]
    rfl
  rw [members_eq_listed, fields, ← listed_map]
  rfl

theorem rowPairs_eq : rowPairs r = listed r.pairs := by
  have scores : listed (Task.all.map (fun t => (t.header, (r.score? t).map (scoreText true)))) =
      Task.all.filterMap (fun t =>
        (r.score? t).map (fun score => (t.header, scoreText true score))) := by
    simp [listed, List.filterMap_map, Function.comp_def]
  have first (rest : List (String × Option String)) :
      listed (("Node", some r.node) :: rest) = ("Node", r.node) :: listed rest := rfl
  have last : listed ([] : List (String × Option String)) = [] := rfl
  simp only [pairs, List.cons_append, first, listed_append, scores, listed_cons_map, last,
    List.append_nil]
  rw [rowPairs, List.append_assoc]
  rfl

theorem cellTexts_eq (showStderr showQos : Bool) :
    cellTexts showStderr showQos r =
      r.node :: (r.figureTexts showStderr showQos).map (·.getD "-") := by
  cases showQos <;> simp [cellTexts, figureTexts, orDash]

theorem plain_of_figure {f : String × Float} (inside : f ∈ listed r.figures) :
    Json.textLiteral f.1 = "\"" ++ f.1 ++ "\"" ∧ Yaml.textScalar 0 f.1 = f.1 := by
  have names : r.figures.map Prod.fst =
      Task.all.flatMap (fun t => [t.name, t.stderrName]) ++ ["response_time", "error_rate"] := rfl
  have plain : ∀ name ∈ Task.all.flatMap (fun t => [t.name, t.stderrName]) ++
      ["response_time", "error_rate"],
      Json.textLiteral name = "\"" ++ name ++ "\"" ∧ Yaml.textScalar 0 name = name := by
    decide +kernel
  rw [← names] at plain
  exact plain f.1 ((labels_listed_sublist r.figures).subset (List.mem_map_of_mem inside))

end Row

namespace Json

theorem writePrettyItems_eq (level : Nat) (items : List Json) :
    writePrettyItems level items =
      [','].intercalate (items.map (fun item => newLine level ++ writePretty level item)) := by
  induction items with
  | nil => rfl
  | cons item rest ih =>
    cases rest with
    | nil => simp [writePrettyItems]
    | cons next rest =>
      rw [writePrettyItems, ih]
      simp [List.intercalate_cons_cons]

theorem writePrettyMembers_eq (level : Nat) (members : List (String × Json)) :
    writePrettyMembers level members = [','].intercalate (members.map (fun member =>
      newLine level ++ writeText member.1 ++ [':', ' '] ++ writePretty level member.2)) := by
  induction members with
  | nil => rfl
  | cons member rest ih =>
    cases rest with
    | nil => simp [writePrettyMembers]
    | cons next rest =>
      rw [writePrettyMembers, ih]
      simp [List.intercalate_cons_cons]

end Json

namespace Yaml

theorem blockItems_eq (indent : Nat) (items : List Json) :
    blockItems indent items =
      String.join (items.map (fun item => spaces indent ++ "- " ++ itemValue indent item)) := by
  induction items with
  | nil => rfl
  | cons item rest ih => rw [blockItems, ih, List.map_cons, String.join_cons]

theorem blockMembers_eq (indent : Nat) (members : List (String × Json)) :
    blockMembers indent members = String.join (members.map (fun member =>
      spaces indent ++ textScalar 0 member.1 ++ ":" ++ memberValue indent member.2)) := by
  induction members with
  | nil => rfl
  | cons member rest ih => rw [blockMembers, ih, List.map_cons, String.join_cons]

end Yaml

namespace Row

variable (r : Row)

theorem toList_jsonField {name : String} (plain : Json.textLiteral name = "\"" ++ name ++ "\"")
    (value : String) : (jsonField name value).toList =
      Json.newLine 2 ++ Json.writeText name ++ [':', ' '] ++ value.toList := by
  have written := congrArg String.toList plain
  rw [Json.textLiteral, String.toList_ofList] at written
  rw [written]
  simp [jsonField, Json.newLine]

theorem toList_jsonEntry : r.jsonEntry.toList = Json.newLine 1 ++ Json.writePretty 1 r.toJson := by
  have node : (jsonField "node" (Json.textLiteral r.node)).toList =
      Json.newLine 2 ++ Json.writeText "node" ++ [':', ' '] ++
        Json.writePretty 2 (.text r.node) := by
    rw [toList_jsonField (by decide +kernel), Json.textLiteral, String.toList_ofList,
      Json.writePretty, Json.write]
  have figures : ((listed r.figures).map (fun f => jsonField f.1 (Json.realText f.2))).map
      String.toList = (listed r.figures).map (fun f =>
        Json.newLine 2 ++ Json.writeText f.1 ++ [':', ' '] ++ Json.writePretty 2 (.real f.2)) := by
    rw [List.map_map]
    refine List.map_congr_left fun f inside => ?_
    rw [Function.comp_apply, toList_jsonField (r.plain_of_figure inside).1, Json.writePretty,
      Json.write]
  have object (member : String × Json) (rest : List (String × Json)) :
      Json.writePretty 1 (.object (member :: rest)) = '\x7b' ::
        Json.writePrettyMembers 2 (member :: rest) ++ Json.newLine 1 ++ ['\x7d'] := by
    rw [Json.writePretty]
    nofun
  rw [toJson, members_eq, object, Json.writePrettyMembers_eq, jsonEntry]
  simp only [String.toList_append, String.toList_intercalate, List.map_cons, node, figures,
    List.map_map]
  simp [Json.newLine, Function.comp_def]

theorem yamlEntry_eq : r.yamlEntry = Yaml.spaces 0 ++ "- " ++ Yaml.itemValue 0 r.toJson := by
  have node : Yaml.textScalar 0 "node" = "node" := by decide +kernel
  have figures : (listed r.figures).map (fun f =>
        "  " ++ f.1 ++ ": " ++ Yaml.numberLayout.render f.2 ++ "\n") =
      ((listed r.figures).map (fun f => (f.1, Json.real f.2))).map (fun member =>
        Yaml.spaces 2 ++ Yaml.textScalar 0 member.1 ++ ":" ++ Yaml.memberValue 2 member.2) := by
    rw [List.map_map]
    refine List.map_congr_left fun f inside => ?_
    have lead : Yaml.spaces 2 = "  " := rfl
    have colon : (": " : String) = ":" ++ " " := rfl
    rw [Function.comp_apply, (r.plain_of_figure inside).2, Yaml.memberValue, lead, colon]
    simp only [String.append_assoc]
  rw [toJson, members_eq, Yaml.itemValue, Yaml.blockMembers_eq, ← figures, node, Yaml.memberValue,
    yamlEntry]
  have none : Yaml.spaces 0 = "" := rfl
  have front : ("- node: " : String) = "- " ++ ("node" ++ ":" ++ " ") := rfl
  rw [none, front]
  simp only [String.append_assoc, String.empty_append]

end Row

namespace Report

inductive Prints (p : Printer) (rows : List Row) : Output → Prop
  | noJson (asked : p.format = .json) (none : rows = []) : Prints p rows ⟨"[]\n", ""⟩
  | json (asked : p.format = .json) (some : rows ≠ []) :
    Prints p rows ⟨"[" ++ ",".intercalate (rows.map Row.jsonEntry) ++ "\n]\n", ""⟩
  | noYaml (asked : p.format = .yaml) (none : rows = []) : Prints p rows ⟨"[]\n\n", ""⟩
  | yaml (asked : p.format = .yaml) (some : rows ≠ []) :
    Prints p rows ⟨String.join (rows.map Row.yamlEntry) ++ "\n", ""⟩
  | text (asked : p.format = .text) : Prints p rows ⟨"\n".intercalate (rows.map Row.textEntry), ""⟩
  | noTable (asked : p.format = .table) (none : rows = []) :
    Prints p rows ⟨paint p.colored [.dimmed] "No nodes match the current filter" ++ "\n", ""⟩
  | table (asked : p.format = .table) (some : rows ≠ []) {showQos : Bool}
    (qos : showQos = true ↔ ∃ r ∈ rows, r.responseTime.isSome ∨ r.errorRate.isSome) :
    Prints p rows ⟨"\n".intercalate (boxLines
      (("Node" :: Task.all.map Task.header ++
        if showQos then ["Resp. time", "Error rate"] else []).map (Cell.ofText .left))
      (rows.map (fun r => .ofText .left r.node ::
        (r.figureTexts p.showStderr showQos).map (fun text => .ofText .right (text.getD "-"))))) ++
      "\n", ""⟩

theorem join_textBlocks (blocks : List (List String)) :
    String.join (([""].intercalate blocks).map (· ++ "\n")) =
      "\n".intercalate (blocks.map (fun block => String.join (block.map (· ++ "\n")))) := by
  induction blocks with
  | nil => rfl
  | cons block rest ih =>
    cases rest with
    | nil => simp
    | cons next rest =>
      rw [List.intercalate_cons_cons, List.map_append, List.map_append, String.join_append,
        String.join_append, ih]
      simp [String.append_assoc]

theorem pretty_rows {rows : List Row} (some : rows ≠ []) :
    (Json.list (rows.map Row.toJson)).pretty =
      "[" ++ ",".intercalate (rows.map Row.jsonEntry) ++ "\n]" := by
  have entries : (rows.map Row.jsonEntry).map String.toList =
      (rows.map Row.toJson).map (fun item => Json.newLine 1 ++ Json.writePretty 1 item) := by
    simp [Function.comp_def, Row.toList_jsonEntry]
  refine String.toList_inj.1 ?_
  rw [Json.pretty, String.toList_ofList, Json.writePretty, Json.writePrettyItems_eq, ← entries]
  · simp [String.toList_intercalate, Json.newLine]
  · simpa using some

theorem document_rows {rows : List Row} (some : rows ≠ []) :
    Yaml.document (.list (rows.map Row.toJson)) = String.join (rows.map Row.yamlEntry) := by
  obtain ⟨first, rest, rfl⟩ := List.exists_cons_of_ne_nil some
  rw [List.map_cons, Yaml.document, ← List.map_cons, Yaml.blockItems_eq, List.map_map]
  exact congrArg String.join (List.map_congr_left fun r _ => r.yamlEntry_eq.symm)

theorem lines_textBlocks {p : Printer} (asked : p.format = .text) (rows : List Row) :
    Output.lines (p.textBlocks rows) = ⟨"\n".intercalate (rows.map Row.textEntry), ""⟩ := by
  have entry (r : Row) :
      String.join (((rowPairs r).map p.pairLine).map (· ++ "\n")) = r.textEntry := by
    rw [Row.textEntry, ← Row.rowPairs_eq, List.map_map]
    refine congrArg String.join (List.map_congr_left fun pair _ => ?_)
    simp [Printer.pairLine, asked]
  rw [Output.lines, Printer.textBlocks, join_textBlocks, List.map_map]
  simp only [Function.comp_def, entry]

theorem anyQos_iff (rows : List Row) :
    anyQos rows = true ↔ ∃ r ∈ rows, r.responseTime.isSome = true ∨ r.errorRate.isSome = true := by
  simp [anyQos, Row.hasQos]

theorem prints_rows (p : Printer) (rows : List Row) : Prints p rows (p.rows rows) := by
  unfold Printer.rows
  cases asked : p.format with
  | json =>
    by_cases none : rows = []
    next =>
      rw [none]
      exact .noJson asked rfl
    next =>
      simp only [Output.line, pretty_rows none, String.append_assoc]
      exact .json asked none
  | yaml =>
    by_cases none : rows = []
    next =>
      have nothing : Yaml.document (.list []) = "[]\n" := by decide +kernel
      simp only [none, List.map_nil, nothing]
      exact .noYaml asked rfl
    next =>
      simp only [Output.line, document_rows none]
      exact .yaml asked none
  | text =>
    simp only [lines_textBlocks asked]
    exact .text asked
  | table =>
    by_cases none : rows = []
    next =>
      simp only [none, List.isEmpty_nil, if_true]
      exact .noTable asked rfl
    next =>
      have cells (r : Row) : cellsOf (cellTexts p.showStderr (anyQos rows) r) =
          .ofText .left r.node :: (r.figureTexts p.showStderr (anyQos rows)).map (fun text =>
            .ofText .right (text.getD "-")) := by
        rw [r.cellTexts_eq, cellsOf, List.map_map]
        rfl
      simp only [List.isEmpty_iff, none, if_false, table, cells]
      exact .table asked none (anyQos_iff rows)

end Report

end Leaderboard
