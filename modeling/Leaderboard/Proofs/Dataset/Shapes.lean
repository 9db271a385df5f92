import Leaderboard.Proofs.Dataset.Record

set_option autoImplicit false

namespace Leaderboard.NodeRecord

variable {fields : SortedMap String Json}

def partMembers (qos metadata : Option Json) : List (String × Json) :=
  (qos.map (fun value => ("qos", value))).toList ++
    (metadata.map (fun value => ("metadata", value))).toList

theorem findEntry_qos (qos metadata : Option Json) :
    SortedMap.findEntry "qos" (partMembers qos metadata).reverse = qos := by
  cases qos <;> cases metadata <;> simp [partMembers, SortedMap.findEntry]

theorem findEntry_metadata (qos metadata : Option Json) :
    SortedMap.findEntry "metadata" (partMembers qos metadata).reverse = metadata := by
  cases qos <;> cases metadata <;> simp [partMembers, SortedMap.findEntry]

theorem findEntry_metrics (qos metadata : Option Json) :
    SortedMap.findEntry "metrics" (partMembers qos metadata).reverse = none := by
  cases qos <;> cases metadata <;> simp [partMembers, SortedMap.findEntry]

theorem findEntry_partMembers (qos metadata : Option Json) {key : String}
    (other : isPartKey key = false) :
    SortedMap.findEntry key (partMembers qos metadata).reverse = none := by
  rw [SortedMap.findEntry_eq_none_iff]
  rintro ⟨name, value⟩ inside rfl
  -- Both names that can stand here are names of parts.
  have names : name = "qos" ∨ name = "metadata" := by
    have either : name = "metadata" ∨ name = "qos" := by
      cases qos <;> cases metadata <;> simp [partMembers] at inside <;> tauto
    exact either.symm
  rcases names with rfl | rfl <;> cases other

theorem findEntry_part {m : List (String × Json)} (apart : ∀ entry ∈ m, isPartKey entry.1 = false)
    {key : String} (part : isPartKey key = true) : SortedMap.findEntry key m.reverse = none := by
  rw [SortedMap.findEntry_eq_none_iff]
  rintro ⟨name, value⟩ inside rfl
  have other := apart (name, value) (List.mem_reverse.1 inside)
  rw [part] at other
  cases other

theorem find?_memberMap (members : List (String × Json)) (key : String) :
    (Json.memberMap members).find? key = SortedMap.findEntry key members.reverse :=
  SortedMap.find?_ofList members key

theorem find?_memberMap_append (first second : List (String × Json)) (key : String) :
    (Json.memberMap (first ++ second)).find? key =
      (SortedMap.findEntry key second.reverse).or (SortedMap.findEntry key first.reverse) := by
  rw [find?_memberMap, List.reverse_append, SortedMap.findEntry_append]

section flat

variable {m : List (String × Json)} (apart : ∀ entry ∈ m, isPartKey entry.1 = false)
  (qos metadata : Option Json)

include apart

theorem find?_flat_part {key : String} (part : isPartKey key = true) :
    (Json.memberMap (partMembers qos metadata ++ m)).find? key =
      SortedMap.findEntry key (partMembers qos metadata).reverse := by
  rw [find?_memberMap_append, findEntry_part apart part, Option.none_or]

theorem sampleAt?_flat (key : String) :
    sampleAt? (Json.memberMap (partMembers qos metadata ++ m)) key =
      (Json.memberMap m).find? key := by
  have none : (Json.memberMap (partMembers qos metadata ++ m)).find? "metrics" = none := by
    rw [find?_flat_part apart qos metadata rfl, findEntry_metrics]
  rw [sampleAt?, none, find?_memberMap m]
  simp only [← isPartKey_iff]
  cases part : isPartKey key with
  | true => rw [if_pos rfl, findEntry_part apart part]
  | false =>
    rw [if_neg Bool.false_ne_true, find?_memberMap_append,
      findEntry_partMembers qos metadata part, Option.or_none]

end flat

theorem find?_nested (qos metadata : Option Json) (m : List (String × Json)) (key : String) :
    (Json.memberMap (partMembers qos metadata ++ [("metrics", .object m)])).find? key =
      if key = "metrics" then some (.object m)
      else SortedMap.findEntry key (partMembers qos metadata).reverse := by
  rw [find?_memberMap_append]
  by_cases same : key = "metrics"
  · simp [SortedMap.findEntry, same]
  · have differs : compare key "metrics" ≠ .eq := fun equal =>
      same (Std.LawfulEqCmp.eq_of_compare equal)
    simp [SortedMap.findEntry, differs, same]

theorem sameNamed_nested {m : List (String × Json)}
    (apart : ∀ entry ∈ m, isPartKey entry.1 = false) (qos metadata : Option Json) :
    SameNamed (Json.memberMap (partMembers qos metadata ++ m))
      (Json.memberMap (partMembers qos metadata ++ [("metrics", .object m)])) := by
  constructor
  case qos =>
    intro value
    rw [find?_flat_part apart qos metadata rfl, find?_nested, if_neg (by decide)]
  case metadata =>
    intro value
    rw [find?_flat_part apart qos metadata rfl, find?_nested, if_neg (by decide)]
  case metrics =>
    intro value other
    rw [find?_flat_part apart qos metadata rfl, findEntry_metrics, find?_nested, if_pos rfl]
    constructor
    · rintro ⟨found, -⟩
      cases found
    · rintro ⟨found, -⟩
      cases found
      exact absurd rfl (other m)
  case samples =>
    intro task key value
    have nested : sampleAt? (Json.memberMap (partMembers qos metadata ++ [("metrics", .object m)]))
        key = (Json.memberMap m).find? key := by
      rw [sampleAt?, find?_nested, if_pos rfl]
    rw [SampleFor, SampleFor, sampleAt?_flat apart, nested]

theorem sameNamed_of_metrics {a b : SortedMap String Json}
    (parts : ∀ key, isPartKey key = true → a.find? key = b.find? key)
    (present : a.find? "metrics" ≠ none) : SameNamed a b := by
  constructor
  case qos =>
    intro value
    rw [parts "qos" rfl]
  case metadata =>
    intro value
    rw [parts "metadata" rfl]
  case metrics =>
    intro value _
    rw [parts "metrics" rfl]
  case samples =>
    intro task key value
    obtain ⟨metrics, found⟩ := Option.ne_none_iff_exists'.1 present
    have same : sampleAt? a key = sampleAt? b key := by
      rw [sampleAt?, sampleAt?, ← parts "metrics" rfl, found]
      cases metrics <;> rfl
    rw [SampleFor, SampleFor, same]

theorem ofJson_shapes_agree :
    (∀ (m : List (String × Json)) (qos metadata : Option Json) (flat nested : List (String × Json)),
      (∀ entry ∈ m, isPartKey entry.1 = false) →
      Json.memberMap flat = Json.memberMap (partMembers qos metadata ++ m) →
      Json.memberMap nested =
        Json.memberMap (partMembers qos metadata ++ [("metrics", .object m)]) →
      ofJson (.object flat) = ofJson (.object nested)) ∧
    ∀ a b : List (String × Json),
      (∀ key, isPartKey key = true →
        (Json.memberMap a).find? key = (Json.memberMap b).find? key) →
      (Json.memberMap a).find? "metrics" ≠ none →
      ofJson (.object a) = ofJson (.object b) := by
  constructor
  · intro m qos metadata flat nested apart flatMap nestedMap
    simp only [ofJson, flatMap, nestedMap]
    exact (sameNamed_nested apart qos metadata).ofFields_eq
  · intro a b parts present
    exact (sameNamed_of_metrics parts present).ofFields_eq

-- An unreadable figure goes before a short sample; `metrics` hides a malformed one.
theorem ofJson_shapes_agree_unreadable :
    ofJson (.object [("arc", .list [.integer 1]), ("qos", .list [.text "slow"])]) =
        ofJson (.object [("metrics", .object [("arc", .list [.integer 1])]),
          ("qos", .list [.text "slow"])]) ∧
      ofJson (.object [("arc", .list [.integer 1]), ("qos", .list [.text "slow"])]) =
        .error (.qos (.wrongType (.text "slow") "f64")) ∧
      ofJson (.object [("metrics", .object [("arc", .null)])]) =
        ofJson (.object [("metrics", .object [("arc", .null)]), ("mmlu", .text "high")]) := by
  have apart : ∀ entry ∈ [("arc", Json.list [.integer 1])], isPartKey entry.1 = false := by
    intro entry inside
    rw [List.mem_singleton.1 inside]
    rfl
  refine ⟨ofJson_shapes_agree.1 _ (some (.list [.text "slow"])) none _ _ apart rfl rfl, rfl, ?_⟩
  refine ofJson_shapes_agree.2 _ _ ?_ nofun
  intro key part
  rcases (isPartKey_iff key).1 part with rfl | rfl | rfl <;> rfl

end Leaderboard.NodeRecord
