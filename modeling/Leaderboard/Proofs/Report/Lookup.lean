import Leaderboard.Proofs.Row.Projection
import Leaderboard.Proofs.Text.Trim
import Leaderboard.Report.Detail

set_option autoImplicit false

namespace Leaderboard.Report.NodeDetail

variable {data : Dataset} {node : NodeId}

structure Describes (data : Dataset) (node : NodeId) (d : NodeDetail) : Prop where
  listed : d.row ∈ projectWith data .all
  named : d.row.node = node
  told : ∃ record, data.find? node = some record ∧ d.row.Shows record ∧
    d.metadata = record.metadata

theorem projectWith_single {record : NodeRecord} (known : data.find? node = some record) :
    projectWith data (.ofNodes [node]) = [Row.ofRecord node record] := by
  have alone : (NodeFilter.nodeSet [node]).keys = [node] := rfl
  simp only [projectWith, NodeFilter.ofNodes, alone, List.filterMap_cons, known, Option.map_some,
    List.filterMap_nil]

theorem describes_ofRecord {record : NodeRecord} (known : data.find? node = some record) :
    Describes data node ⟨Row.ofRecord node record, record.metadata⟩ where
  listed := (mem_projectWith data .all).2 ⟨rfl, record, known, rfl⟩
  named := rfl
  told := ⟨record, known, Row.shows_ofRecord node record, rfl⟩

theorem find_known {text : String} {record : NodeRecord}
    (known : data.find? (Text.trim text) = some record) :
    find data text = .ok ⟨Row.ofRecord (Text.trim text) record, record.metadata⟩ := by
  simp only [find, known, projectWith_single known]

theorem find_unknown {text : String} (unknown : data.find? (Text.trim text) = none) :
    find data text = .error (missing (Text.trim text)) := by
  simp only [find, unknown]

theorem found_by_address :
    (∀ (data : Dataset) (node : NodeId), data.contains node = true →
      ((∃ d, find data node = .ok d ∧ Describes data node d) ↔
        Text.Unpadded Text.isBlank node.toList)) ∧
    ∀ (data : Dataset) (text : String),
      (data.contains (Text.trim text) = true ∧
        ∃ d, find data text = .ok d ∧ Describes data (Text.trim text) d) ∨
      (data.contains (Text.trim text) = false ∧ find data text =
        .error ⟨.notFound, "node " ++ Text.trim text ++ " is not on the leaderboard"⟩) := by
  constructor
  · intro data node present
    obtain ⟨record, known⟩ := Option.isSome_iff_exists.1 present
    rw [← Text.trim_eq_self_iff]
    constructor
    · rintro ⟨d, found, describes⟩
      -- Whatever is found bears the trimmed address.
      cases other : data.find? (Text.trim node) with
      | none =>
        rw [find_unknown other] at found
        cases found
      | some record =>
        rw [find_known other] at found
        cases found
        exact describes.named
    · intro same
      have found : find data node = .ok ⟨Row.ofRecord (Text.trim node) record, record.metadata⟩ :=
        find_known (same.symm ▸ known)
      rw [same] at found
      exact ⟨_, found, describes_ofRecord known⟩
  · intro data text
    cases known : data.find? (Text.trim text) with
    | none => exact .inr ⟨by rw [SortedMap.contains, known]; rfl, find_unknown known⟩
    | some record =>
      exact .inl ⟨by rw [SortedMap.contains, known]; rfl, _, find_known known,
        describes_ofRecord known⟩

-- The addresses of two nodes differ by a blank at the front.
theorem found_by_address_beside_padded :
    let data : Dataset := (SortedMap.empty.insert "a" .empty).insert " a" .empty
    data.contains "a" = true ∧
      (∃ d, find data "a" = .ok d ∧ Describes data "a" d) ∧
      data.contains (Text.trim " a ") = true ∧
      ∃ d, find data " a " = .ok d ∧ Describes data "a" d := by
  intro data
  have unpadded : Text.Unpadded Text.isBlank "a".toList := (Text.trim_eq_self_iff "a").1 (by decide)
  have trimmed : Text.trim " a " = "a" := by decide
  refine ⟨by decide, (found_by_address.1 data "a" (by decide)).2 unpadded, by decide, ?_⟩
  rcases found_by_address.2 data " a " with ⟨-, found⟩ | ⟨missed, -⟩
  · rwa [trimmed] at found
  · exact absurd missed (by decide)

-- Another node may be shown in place of the one whose address begins with a blank.
theorem padded_address_missed :
    let alone : Dataset := SortedMap.empty.insert " a" .empty
    let beside : Dataset := alone.insert "a" .empty
    alone.contains " a" = true ∧
      find alone " a" = .error ⟨.notFound, "node a is not on the leaderboard"⟩ ∧
      beside.contains " a" = true ∧ ∃ d, find beside " a" = .ok d ∧ d.row.node = "a" := by
  intro alone beside
  have trimmed : Text.trim " a" = "a" := by decide
  have unknown : alone.find? (Text.trim " a") = none := by decide
  have known : beside.find? (Text.trim " a") = some .empty := by decide
  refine ⟨by decide, ?_, by decide, _, find_known known, trimmed⟩
  rw [find_unknown unknown, trimmed]
  rfl

end Leaderboard.Report.NodeDetail
