import Leaderboard.Proofs.Report.Lookup
import Leaderboard.Proofs.Row.Filtering

set_option autoImplicit false

namespace Leaderboard

variable {α β : Type}

def listed (fields : List (String × Option α)) : List (String × α) :=
  fields.filterMap (fun field => field.2.map (fun v => (field.1, v)))

theorem listed_append (first second : List (String × Option α)) :
    listed (first ++ second) = listed first ++ listed second :=
  List.filterMap_append

theorem listed_cons_map (label : String) (value : Option α) (f : α → β)
    (rest : List (String × Option β)) :
    listed ((label, value.map f) :: rest) =
      (value.map (fun v => (label, f v))).toList ++ listed rest := by
  cases value <;> rfl

theorem labels_listed_sublist (fields : List (String × Option α)) :
    ((listed fields).map Prod.fst).Sublist (fields.map Prod.fst) := by
  induction fields with
  | nil => exact .slnil
  | cons field rest ih =>
    obtain ⟨label, value⟩ := field
    cases value with
    | none => exact ih.cons label
    | some v => exact ih.cons_cons label

theorem label_listed_iff {fields : List (String × Option α)}
    (distinct : (fields.map Prod.fst).Nodup) {label : String} {value : Option α}
    (inside : (label, value) ∈ fields) :
    label ∈ (listed fields).map Prod.fst ↔ value.isSome = true := by
  simp only [listed, List.mem_map, List.mem_filterMap, Option.map_eq_some_iff, Prod.exists]
  constructor
  · rintro ⟨_, v, ⟨other, held, present, w, known, same⟩, rfl⟩
    cases same
    -- The labels differ, so the field found is the one asked for.
    have one := List.inj_on_of_nodup_map distinct inside present rfl
    cases one
    exact Option.isSome_iff_exists.2 ⟨_, known⟩
  · intro known
    obtain ⟨v, rfl⟩ := Option.isSome_iff_exists.1 known
    exact ⟨label, v, ⟨label, some v, inside, v, rfl, rfl⟩, rfl⟩

namespace Task

theorem mem_all (t : Task) : t ∈ all := by
  cases t <;> decide

theorem ascending_all : all.Pairwise (fun a b => compare a b = .lt) := by decide

end Task

namespace Row

variable (r : Row)

-- Both fields of a task have a value, or none has.
def scoreFields (t : Task) : List (String × Option Json) :=
  [(t.name, (r.score? t).map (fun score => .real score.shownValue)),
    (t.stderrName, (r.score? t).map (fun score => .real score.shownStderr))]

def fields : List (String × Option Json) :=
  ("node", some (.text r.node)) :: Task.all.flatMap r.scoreFields ++
    [("response_time", r.responseTime.map .real), ("error_rate", r.errorRate.map .real)]

theorem listed_scoreFields (t : Task) :
    listed (r.scoreFields t) =
      match r.score? t with
      | some score =>
        [(t.name, .real score.shownValue), (t.stderrName, .real score.shownStderr)]
      | none => [] := by
  cases found : r.score? t <;> simp [listed, scoreFields, found]

theorem members_eq_listed : r.members = listed r.fields := by
  have first (rest : List (String × Option Json)) :
      listed (("node", some (.text r.node)) :: rest) = ("node", .text r.node) :: listed rest := rfl
  have scores : listed (Task.all.flatMap r.scoreFields) =
      Task.all.flatMap (fun t => listed (r.scoreFields t)) := List.filterMap_flatMap
  have last : listed ([] : List (String × Option Json)) = [] := rfl
  simp only [fields, List.cons_append, first, listed_append, scores, listed_scoreFields,
    listed_cons_map, last, List.append_nil]
  rw [members, List.append_assoc]
  rfl

end Row

namespace Report

theorem scorePairs_eq (r : Row) :
    r.scores.entries.map (fun (task, score) => (task.header, scoreText true score)) =
      Task.all.filterMap (fun task =>
        (r.score? task).map (fun score => (task.header, scoreText true score))) := by
  rw [SortedMap.entries_eq_filterMap Task.ascending_all (fun t _ => t.mem_all),
    List.map_filterMap]
  simp only [Option.map_map]
  rfl

namespace NodeDetail

variable (d : NodeDetail)

def metadataFields (m : Option NodeMetadata) : List (String × Option String) :=
  [("Service", m.bind (·.service)),
    ("Last seen height", (m.bind (·.lastSeenHeight)).map (fun h => toString h.toNat)),
    ("Last seen", m.bind (·.lastSeenTime))]

theorem listed_metadataFields (m : Option NodeMetadata) :
    listed (metadataFields m) = (m.map metadataPairs).getD [] := by
  cases m with
  | none => rfl
  | some m =>
    obtain ⟨service, height, time⟩ := m
    cases service <;> cases height <;> cases time <;> rfl

theorem pairs_eq : d.pairs = rowPairs d.row ++ listed (metadataFields d.metadata) := by
  rw [pairs, scorePairs_eq, listed_metadataFields, rowPairs]

def fields : List (String × Option Json) :=
  d.row.fields ++ [("metadata", d.metadata.map NodeMetadata.toJson)]

theorem toJson_eq : d.toJson = .object (listed d.fields) := by
  rw [toJson, fields, listed_append, ← Row.members_eq_listed, listed_cons_map]
  simp [listed]

theorem distinct_fields : (d.fields.map Prod.fst).Nodup := by
  have labels : d.fields.map Prod.fst =
      "node" :: Task.all.flatMap (fun t => [t.name, t.stderrName]) ++
        ["response_time", "error_rate", "metadata"] := rfl
  rw [labels]
  decide

theorem mem_fields_of_task {t : Task} {field : String × Option Json}
    (inside : field ∈ d.row.scoreFields t) : field ∈ d.fields := by
  have scores : field ∈ Task.all.flatMap d.row.scoreFields :=
    List.mem_flatMap.2 ⟨t, t.mem_all, inside⟩
  simp [fields, Row.fields, scores]

variable {data : Dataset} {node : NodeId} {record : NodeRecord}

theorem rows_of_known (known : data.find? node = some record) :
    (project data "").filter (fun r => r.node == node) = [Row.ofRecord node record] := by
  have asked (r : Row) : (NodeFilter.ofNodes [node]).accepts r.node = (r.node == node) := by
    rw [Bool.eq_iff_iff, NodeFilter.ofNodes, accepts_only, NodeFilter.mem_nodeSet_iff]
    simp
  have all : NodeFilter.parse "" = .all := NodeFilter.parse_of_blank rfl
  rw [project, all, ← projectWith_single known, projectWith_eq_filter data (.ofNodes [node])]
  simp only [asked]

theorem scores_of_record :
    (Row.ofRecord node record).scores.keys =
      Task.all.filter (fun t => (record.sample? t).isSome) := by
  rw [(Row.shows_ofRecord node record).tasks]
  exact SortedMap.keys_eq_filter Task.ascending_all fun t _ => t.mem_all

theorem score_isSome (node : NodeId) (t : Task) :
    ((Row.ofRecord node record).score? t).isSome = (record.sample? t).isSome := by
  rw [(Row.shows_ofRecord node record).scores, Option.isSome_map]

theorem detail_extends_row {text : String} {d : NodeDetail} (found : find data text = .ok d) :
    (project data "").filter (fun r => r.node == Text.trim text) = [d.row] ∧
      ∃ record, data.find? (Text.trim text) = some record ∧
        d.row.scores.keys = Task.all.filter (fun t => (record.sample? t).isSome) ∧
        d.pairs = rowPairs d.row ++ listed [
          ("Service", record.metadata.bind (·.service)),
          ("Last seen height",
            (record.metadata.bind (·.lastSeenHeight)).map (fun h => toString h.toNat)),
          ("Last seen", record.metadata.bind (·.lastSeenTime))] ∧
        ∃ own members, d.row.toJson = .object own ∧ d.toJson = .object members ∧
          members = own ++ listed [("metadata", record.metadata.map NodeMetadata.toJson)] ∧
          (members.map Prod.fst).Nodup ∧
          ∀ t : Task,
            (t.name ∈ members.map Prod.fst ↔ (record.sample? t).isSome = true) ∧
            (t.stderrName ∈ members.map Prod.fst ↔ (record.sample? t).isSome = true) := by
  cases known : data.find? (Text.trim text) with
  | none =>
    rw [find_unknown known] at found
    cases found
  | some record =>
    rw [find_known known] at found
    cases found
    set d : NodeDetail := ⟨Row.ofRecord (Text.trim text) record, record.metadata⟩
    refine ⟨rows_of_known known, record, rfl, scores_of_record, d.pairs_eq,
      d.row.members, listed d.fields, rfl, d.toJson_eq, ?added, ?distinct, ?labels⟩
    case added => rw [fields, listed_append, ← Row.members_eq_listed]
    case distinct => exact d.distinct_fields.sublist (labels_listed_sublist d.fields)
    case labels =>
      intro t
      rw [← score_isSome (Text.trim text)]
      constructor
      · rw [label_listed_iff d.distinct_fields (d.mem_fields_of_task (t := t) List.mem_cons_self),
          Option.isSome_map]
      · rw [label_listed_iff d.distinct_fields
          (d.mem_fields_of_task (t := t) (List.mem_cons_of_mem _ List.mem_cons_self)),
          Option.isSome_map]

-- The samples were put in out of order, and of the metadata the service is unknown.
theorem detail_extends_row_without_service :
    let half := Float.ofBits 0x3FE0000000000000
    let metadata : NodeMetadata := ⟨none, some 7, some "today"⟩
    let record : NodeRecord :=
      { (NodeRecord.empty.withSample .gsm8k ⟨half, half⟩).withSample .arc ⟨half, half⟩ with
        metadata := some metadata }
    let data : Dataset := (SortedMap.empty.insert "b" .empty).insert "a" record
    let d : NodeDetail := ⟨Row.ofRecord "a" record, some metadata⟩
    find data " a" = .ok d ∧
      (project data "").filter (fun r => r.node == "a") = [d.row] ∧
      d.row.scores.keys = [.arc, .gsm8k] ∧
      d.pairs = rowPairs d.row ++ [("Last seen height", "7"), ("Last seen", "today")] ∧
      ∃ members, d.toJson = .object members ∧ (members.map Prod.fst).Nodup ∧
        "arc_stderr" ∈ members.map Prod.fst ∧ "mmlu_stderr" ∉ members.map Prod.fst := by
  intro half metadata record data d
  have trimmed : Text.trim " a" = "a" := by decide
  have known : data.find? (Text.trim " a") = some record := by decide
  have found : find data " a" = .ok d := by rw [find_known known, trimmed]
  obtain ⟨row, other, same, tasks, pairs, own, members, -, document, -, distinct, labels⟩ :=
    detail_extends_row found
  rw [known] at same
  cases same
  rw [trimmed] at row
  refine ⟨found, row, tasks, pairs, members, document, distinct, ?present, ?absent⟩
  case present => exact (labels .arc).2.2 rfl
  case absent => exact fun listed => nomatch (labels .mmlu).2.1 listed

end NodeDetail

end Report

end Leaderboard
