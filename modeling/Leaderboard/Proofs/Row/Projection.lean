import Leaderboard.Proofs.Data.SortedMap
import Leaderboard.Proofs.Text.Utf8
import Leaderboard.Row.Basic

set_option autoImplicit false

namespace Leaderboard

namespace Row

structure Shows (r : Row) (record : NodeRecord) : Prop where
  tasks : r.scores.keys = record.samples.keys
  scores : ∀ task, r.score? task = (record.sample? task).map Score.ofSample
  responseTime : r.responseTime = record.qos.map (·.responseTime)
  errorRate : r.errorRate = record.qos.map (·.errorRate)

theorem shows_ofRecord (node : NodeId) (record : NodeRecord) :
    (Row.ofRecord node record).Shows record where
  tasks := by simp [ofRecord, SortedMap.keys, SortedMap.mapValues]
  scores task := SortedMap.find?_mapValues _ record.samples task
  responseTime := rfl
  errorRate := rfl

end Row

variable (data : Dataset) (f : NodeFilter)

theorem accepts_only (nodes : SortedMap NodeId Unit) (node : NodeId) :
    (NodeFilter.only nodes).accepts node = true ↔ node ∈ nodes.keys :=
  SortedMap.contains_iff nodes node

theorem mem_projectWith {r : Row} :
    r ∈ projectWith data f ↔
      f.accepts r.node = true ∧
        ∃ record, data.find? r.node = some record ∧ Row.ofRecord r.node record = r := by
  cases f with
  | all =>
    simp only [projectWith, List.mem_map, Prod.exists, SortedMap.mem_entries_iff,
      NodeFilter.accepts, true_and]
    constructor
    · rintro ⟨node, record, known, rfl⟩
      exact ⟨record, known, rfl⟩
    · rintro ⟨record, known, same⟩
      exact ⟨r.node, record, known, same⟩
  | only nodes =>
    simp only [projectWith, List.mem_filterMap, Option.map_eq_some_iff, accepts_only]
    constructor
    · rintro ⟨node, asked, record, known, rfl⟩
      exact ⟨asked, record, known, rfl⟩
    · rintro ⟨asked, record, known, same⟩
      exact ⟨r.node, asked, record, known, same⟩

theorem ascending_projectWith :
    (projectWith data f).Pairwise (fun a b => compare a.node b.node = .lt) := by
  cases f with
  | all => exact List.pairwise_map.2 data.ascending
  | only nodes =>
    have keys : nodes.keys.Pairwise (fun a b => compare a b = .lt) :=
      List.pairwise_map.2 nodes.ascending
    refine List.Pairwise.filterMap _ (fun a b below r first s second => ?_) keys
    obtain ⟨record, -, rfl⟩ := Option.map_eq_some_iff.1 first
    obtain ⟨other, -, rfl⟩ := Option.map_eq_some_iff.1 second
    exact below

theorem projectWith_eq_filter :
    projectWith data f = (projectWith data .all).filter (fun r => f.accepts r.node) := by
  refine SortedMap.eq_of_ascending Row.node (ascending_projectWith data f)
    ((ascending_projectWith data .all).filter _) fun r => ?_
  rw [List.mem_filter, mem_projectWith, mem_projectWith]
  simp only [NodeFilter.accepts, true_and, and_comm]

theorem nodes_projectWith :
    (projectWith data f).map Row.node = data.keys.filter f.accepts := by
  refine SortedMap.eq_of_ascending id (List.pairwise_map.2 (ascending_projectWith data f))
    ((List.pairwise_map.2 data.ascending).filter _) fun node => ?_
  rw [List.mem_filter, List.mem_map, ← SortedMap.contains_iff, SortedMap.contains,
    Option.isSome_iff_exists]
  constructor
  · rintro ⟨r, shown, rfl⟩
    obtain ⟨accepted, record, known, -⟩ := (mem_projectWith data f).1 shown
    exact ⟨⟨record, known⟩, accepted⟩
  · rintro ⟨⟨record, known⟩, accepted⟩
    exact ⟨Row.ofRecord node record, (mem_projectWith data f).2 ⟨accepted, record, known, rfl⟩, rfl⟩

theorem distinct_projectWith : ((projectWith data f).map Row.node).Nodup :=
  List.Pairwise.map _ (fun _ _ => SortedMap.ne_of_below) (ascending_projectWith data f)

theorem projectWith_restricts :
    projectWith data f = (projectWith data .all).filter (fun r => f.accepts r.node) ∧
      (projectWith data f).Pairwise (fun a b => a.node < b.node) ∧
      (projectWith data f).map Row.node = data.keys.filter f.accepts ∧
      ∀ r ∈ projectWith data f, ∃ record, data.find? r.node = some record ∧ r.Shows record := by
  refine ⟨projectWith_eq_filter data f, ?_, nodes_projectWith data f, ?_⟩
  · exact (ascending_projectWith data f).imp (Text.string_compare_eq_lt_iff _ _).1
  · intro r shown
    obtain ⟨-, record, known, same⟩ := (mem_projectWith data f).1 shown
    exact ⟨record, known, same ▸ Row.shows_ofRecord r.node record⟩

-- Two nodes are asked for, one of them unknown; the other known node is not asked for.
theorem projectWith_restricts_asked :
    let half := Float.ofBits 0x3FE0000000000000
    let record := NodeRecord.empty.withSample .arc ⟨half, half⟩
    let data : Dataset := (SortedMap.empty.insert "b" record).insert "a" .empty
    let f := NodeFilter.ofNodes ["c", "b"]
    let r := Row.ofRecord "b" record
    r ∈ projectWith data f ∧ projectWith data f = [r] ∧
      ∃ record, data.find? "b" = some record ∧ r.Shows record := by
  intro half record data f r
  have rows : projectWith data f = [r] := by decide
  have shown : r ∈ projectWith data f := rows ▸ List.mem_singleton_self r
  exact ⟨shown, rows, (projectWith_restricts data f).2.2.2 r shown⟩

end Leaderboard
