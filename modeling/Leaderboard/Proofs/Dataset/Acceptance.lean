import Leaderboard.Proofs.Dataset.Members
import Leaderboard.Proofs.Dataset.Record

set_option autoImplicit false

namespace Leaderboard

def Json.Numeric (value : Json) : Prop := (∃ n, value = .integer n) ∨ ∃ x, value = .real x

theorem readReal_reads_iff (value : Json) : (∃ x, readReal value = .ok x) ↔ value.Numeric := by
  cases value <;> simp [readReal, Json.Numeric]

namespace Sample

def IsObject (value : Json) : Prop :=
  ∃ members mean stderr, value = .object members ∧
    (Json.memberMap members).find? "mean" = some mean ∧ mean.Numeric ∧
    (Json.memberMap members).find? "stderr" = some stderr ∧ stderr.Numeric

def IsPair (value : Json) : Prop := ∃ a b : Json, value = .list [a, b] ∧ a.Numeric ∧ b.Numeric

theorem readField_reads_iff (fields : SortedMap String Json) (name : String) (x : Float) :
    readField readReal fields name = .ok (some x) ↔
      ∃ value, fields.find? name = some value ∧ readReal value = .ok x := by
  cases found : fields.find? name <;> simp [readField, found, map_eq_ok_iff]

theorem required_eq_ok_iff {α : Type} (name : String) (found : Option α) (result : α) :
    required name found = .ok result ↔ found = some result := by
  cases found <;> simp [required]

theorem ofFields_reads_iff (members : List (String × Json)) :
    (∃ sample, ofFields (Json.memberMap members) = .ok sample) ↔ IsObject (.object members) := by
  simp only [ofFields, bind_eq_ok_iff, required_eq_ok_iff]
  constructor
  · rintro ⟨sample, _, meanRead, _, stderrRead, mean, rfl, stderr, rfl, -⟩
    obtain ⟨first, meanFound, meanReads⟩ := (readField_reads_iff _ _ _).1 meanRead
    obtain ⟨second, stderrFound, stderrReads⟩ := (readField_reads_iff _ _ _).1 stderrRead
    exact ⟨members, first, second, rfl, meanFound, (readReal_reads_iff first).1 ⟨mean, meanReads⟩,
      stderrFound, (readReal_reads_iff second).1 ⟨stderr, stderrReads⟩⟩
  · rintro ⟨_, first, second, same, meanFound, meanNumeric, stderrFound, stderrNumeric⟩
    cases same
    obtain ⟨mean, meanReads⟩ := (readReal_reads_iff first).2 meanNumeric
    obtain ⟨stderr, stderrReads⟩ := (readReal_reads_iff second).2 stderrNumeric
    exact ⟨⟨mean, stderr⟩, some mean, (readField_reads_iff _ _ _).2 ⟨first, meanFound, meanReads⟩,
      some stderr, (readField_reads_iff _ _ _).2 ⟨second, stderrFound, stderrReads⟩, mean, rfl,
      stderr, rfl, rfl⟩

theorem readPair_reads_iff (items : List Json) :
    (∃ pair, readPair structName items = .ok pair) ↔ IsPair (.list items) := by
  constructor
  · rintro ⟨pair, read⟩
    match items with
    | [] => cases read
    | [a] =>
      obtain ⟨x, -, later⟩ := (bind_eq_ok_iff _ _ _).1 read
      cases later
    | a :: b :: rest =>
      obtain ⟨x, first, read⟩ := (bind_eq_ok_iff _ _ _).1 read
      obtain ⟨y, second, read⟩ := (bind_eq_ok_iff _ _ _).1 read
      cases rest with
      | nil =>
        exact ⟨a, b, rfl, (readReal_reads_iff a).1 ⟨x, first⟩, (readReal_reads_iff b).1 ⟨y, second⟩⟩
      | cons => cases read
  · rintro ⟨a, b, same, first, second⟩
    cases same
    obtain ⟨x, first⟩ := (readReal_reads_iff a).2 first
    obtain ⟨y, second⟩ := (readReal_reads_iff b).2 second
    exact ⟨(x, y), (bind_eq_ok_iff _ _ _).2 ⟨x, first, (bind_eq_ok_iff _ _ _).2 ⟨y, second, rfl⟩⟩⟩

theorem ofJson_reads_iff (value : Json) :
    (∃ sample, ofJson value = .ok sample) ↔ IsObject value ∨ IsPair value := by
  cases value with
  | object members =>
    rw [ofJson, ofFields_reads_iff]
    exact ⟨.inl, fun shaped => shaped.resolve_right (by rintro ⟨_, _, same, _⟩; cases same)⟩
  | list items =>
    rw [← readPair_reads_iff, ofJson]
    simp only [map_eq_ok_iff]
    constructor
    · rintro ⟨sample, pair, read, -⟩
      exact .inr ⟨pair, read⟩
    · rintro (⟨_, _, _, same, _⟩ | ⟨pair, read⟩)
      · cases same
      · exact ⟨_, pair, read, rfl⟩
  | _ => simp [ofJson, IsObject, IsPair]

end Sample

namespace Dataset

open Json (ValueText MembersText Blank maxDepth)

def Holds (payload : List UInt8) (members : List (String × Json)) : Prop :=
  ∃ front trailing, Text.decodeStrict payload = front ++ trailing ∧
    ValueText maxDepth front (.object members) ∧ Blank trailing

theorem exists_recordText {cs more : List Char} {record : NodeRecord}
    (read : readRecord cs = .ok (record, more)) :
    ∃ front value, ValueText (maxDepth - 1) front value ∧ cs = front ++ more ∧
      NodeRecord.ofJson value = .ok record := by
  unfold readRecord at read
  split at read
  next rest brace =>
    split at read
    next => cases read
    next value after part =>
      split at read
      next record decodes =>
        cases read
        obtain ⟨members, rfl⟩ : ∃ members, value = .object members := by
          by_contra other
          rw [ofJson_other (not_exists.1 other)] at decodes
          cases decodes
        rw [← brace] at part
        obtain ⟨front, written, same⟩ :=
          Json.exists_valueText (Json.readPart_of_skipSpace part trivial)
        exact ⟨front, _, written, same, decodes⟩
      next => cases read
  next => split at read <;> cases read

theorem decodes_nil : Decodes [] := fun _ inside => absurd inside List.not_mem_nil

theorem exists_membersText {fuel : Nat} {cs more : List Char} {d result : Dataset}
    (read : readMembers fuel cs d = .ok (result, more)) :
    ∃ pairs members, MembersText (maxDepth - 1) pairs members ∧ cs = pairs ++ more ∧
      Decodes members ∧ result = (recordsOf members).foldl (fun d e => d.insert e.1 e.2) d := by
  induction fuel generalizing cs d with
  | zero => cases read
  | succ fuel ih =>
    unfold readMembers at read
    split at read
    next => cases read
    next node recordText nameRead =>
      obtain ⟨name, named, nameSame⟩ := Json.exists_nameText nameRead
      split at read
      next => cases read
      next record after recordRead =>
        obtain ⟨item, value, written, same, decodes⟩ := exists_recordText recordRead
        obtain ⟨space, blank, spaceSame⟩ := Json.exists_blank after
        have known := recordOf_eq decodes
        split at read
        next rest comma =>
          obtain ⟨pairs, members, inside, pairsSame, others, folded⟩ := ih read
          refine ⟨_, _, .cons named written blank inside, ?_,
            Decodes.cons_iff.2 ⟨by rw [known, decodes], others⟩, ?_⟩
          · rw [nameSame, same, spaceSame, comma, pairsSame]
            simp
          · rw [folded, ← known]
            rfl
        next rest brace =>
          cases read
          refine ⟨_, _, .last named written blank, ?_,
            Decodes.cons_iff.2 ⟨by rw [known, decodes], decodes_nil⟩, ?_⟩
          · rw [nameSame, same, spaceSame, brace]
            simp
          · rw [← known]
            rfl
        next => cases read

theorem exists_payloadText {cs more : List Char} {d : Dataset}
    (read : readPayload cs = .ok (d, more)) :
    ∃ front members, ValueText maxDepth front (.object members) ∧ cs = front ++ more ∧
      Decodes members ∧ d = SortedMap.ofList (recordsOf members) := by
  obtain ⟨space, blank, same⟩ := Json.exists_blank cs
  unfold readPayload at read
  split at read
  next rest brace =>
    obtain ⟨inner, hollow, innerSame⟩ := Json.exists_blank rest
    split at read
    next after closing =>
      cases read
      exact ⟨_, [], .emptyObject blank hollow, by rw [same, brace, innerSame, closing]; simp,
        decodes_nil, rfl⟩
    next =>
      rw [readMembers_skipSpace] at read
      obtain ⟨pairs, members, inside, pairsSame, decodes, folded⟩ := exists_membersText read
      exact ⟨_, members, .object blank inside, by rw [same, brace, pairsSame]; simp, decodes,
        folded⟩
  next => split at read <;> cases read

theorem exists_rest_of_parse {payload : List UInt8} {d : Dataset} (read : parse payload = .ok d) :
    ∃ rest, readPayload (Text.decodeStrict payload) = .ok (d, rest) ∧ Blank rest := by
  cases inside : readPayload (Text.decodeStrict payload) with
  | error error =>
    rw [parse_of_error inside] at read
    cases read
  | ok found =>
    obtain ⟨dataset, rest⟩ := found
    simp only [parse, ofText, inside, Bind.bind, Except.bind] at read
    obtain ⟨space, blank, same⟩ := Json.exists_blank rest
    split at read
    next whole =>
      cases read
      split at whole
      next nothing =>
        cases whole
        rw [List.isEmpty_iff.1 nothing, List.append_nil] at same
        exact ⟨rest, rfl, same ▸ blank⟩
      next => cases whole
    next => cases read

theorem Holds.unique {payload : List UInt8} {first second : List (String × Json)}
    (one : Holds payload first) (other : Holds payload second) : first = second := by
  obtain ⟨front, trailing, same, written, -⟩ := one
  obtain ⟨others, rest, again, alike, -⟩ := other
  have read : Json.readPart maxDepth (front ++ trailing) = some (.object first, trailing) :=
    Json.readPart_append written trivial
  have reread : Json.readPart maxDepth (others ++ rest) = some (.object second, rest) :=
    Json.readPart_append alike trivial
  rw [← same, again, reread] at read
  cases read
  rfl

theorem holds_encode {text : String} {members : List (String × Json)}
    (read : Json.readPart maxDepth text.toList = some (.object members, [])) :
    Holds (Text.encode text) members :=
  ⟨text.toList, [], by rw [Text.decodeStrict_encode, List.append_nil],
    Json.readPart_eq_some_iff.1 read, Json.blank_nil⟩

theorem parse_eq_ok_iff (payload : List UInt8) (d : Dataset) :
    parse payload = .ok d ↔
      ∃ members, Holds payload members ∧ Decodes members ∧
        d = SortedMap.ofList (recordsOf members) := by
  constructor
  · intro read
    obtain ⟨rest, inside, blank⟩ := exists_rest_of_parse read
    obtain ⟨front, members, written, same, decodes, made⟩ := exists_payloadText inside
    exact ⟨members, ⟨front, rest, same, written, blank⟩, decodes, made⟩
  · rintro ⟨members, ⟨front, trailing, same, written, blank⟩, decodes, rfl⟩
    exact parse_of_readPayload (same ▸ readPayload_object written decodes trailing) blank

theorem exists_error_of_parse {payload : List UInt8} (refused : ∀ d, parse payload ≠ .ok d) :
    ∃ message, parse payload = .error ⟨.parse, message⟩ := by
  cases read : ofText (Text.decodeStrict payload) with
  | ok d => exact absurd (by rw [parse, read]) (refused d)
  | error error => exact ⟨_, by rw [parse, read]⟩

theorem Decodes.fields {members : List (String × Json)} (decodes : Decodes members) {node : NodeId}
    {value : Json} (inside : (node, value) ∈ members) :
    ∃ fields, value = .object fields ∧ NodeRecord.Valid (Json.memberMap fields) := by
  obtain ⟨record, known⟩ := decodes _ inside
  cases value with
  | object fields => exact ⟨fields, rfl, NodeRecord.valid_iff.2 ⟨record, known⟩⟩
  | _ => cases known

theorem samples_of_accepted (payload : List UInt8) :
    (∀ d, parse payload = .ok d →
      ∃ members, Holds payload members ∧
        ∀ node value, (node, value) ∈ members → ∃ fields, value = .object fields ∧
          ∀ task key given, NodeRecord.SampleFor (Json.memberMap fields) task key given →
            Sample.IsObject given ∨ Sample.IsPair given) ∧
    ∀ (members fields : List (String × Json)) (node : NodeId) (task : Task) (key : String)
      (given : Json), Holds payload members → (node, .object fields) ∈ members →
      NodeRecord.SampleFor (Json.memberMap fields) task key given →
      ¬ Sample.IsObject given → ¬ Sample.IsPair given →
      ∃ message, parse payload = .error ⟨.parse, message⟩ := by
  constructor
  · intro d read
    obtain ⟨members, holds, decodes, -⟩ := (parse_eq_ok_iff payload d).1 read
    refine ⟨members, holds, fun node value inside => ?_⟩
    obtain ⟨fields, object, valid⟩ := decodes.fields inside
    refine ⟨fields, object, fun task key given sample => ?_⟩
    exact (Sample.ofJson_reads_iff given).1 (valid.samples task key given sample)
  · intro members fields node task key given holds inside sample object pair
    apply exists_error_of_parse
    intro d read
    obtain ⟨others, again, decodes, -⟩ := (parse_eq_ok_iff payload d).1 read
    rw [again.unique holds] at decodes
    obtain ⟨_, same, valid⟩ := decodes.fields inside
    cases same
    have reads := (Sample.ofJson_reads_iff given).1 (valid.samples task key given sample)
    exact reads.elim object pair

-- The standard error in front of the mean, and three numbers in an array.
theorem samples_of_accepted_among_others :
    let payload := Text.encode
      "\x7b\"n\":\x7b\"MMLU\":\x7b\"stderr\":0,\"mean\":1\x7d,\"arc\":null\x7d\x7d"
    let refused := Text.encode "\x7b\"n\":\x7b\"metrics\":\x7b\"avg\":[1,0,0]\x7d\x7d\x7d"
    (∃ d, parse payload = .ok d) ∧
      Sample.IsObject (.object [("stderr", .integer 0), ("mean", .integer 1)]) ∧
      Holds refused [("n", .object [("metrics", .object [("avg",
        .list [.integer 1, .integer 0, .integer 0])])])] ∧
      ∃ message, parse refused = .error ⟨.parse, message⟩ := by
  intro payload refused
  have holds : Holds payload [("n", .object [("MMLU", .object [("stderr", .integer 0),
      ("mean", .integer 1)]), ("arc", .null)])] :=
    holds_encode (by simp only [String.reduceToList]; rfl)
  have decodes : Decodes [("n", .object [("MMLU", .object [("stderr", .integer 0),
      ("mean", .integer 1)]), ("arc", .null)])] := by
    intro m inside
    rw [List.mem_singleton.1 inside]
    exact ⟨_, rfl⟩
  have read := (parse_eq_ok_iff payload _).2 ⟨_, holds, decodes, rfl⟩
  have shaped : Sample.IsObject (.object [("stderr", .integer 0), ("mean", .integer 1)]) := by
    obtain ⟨members, again, shapes⟩ := (samples_of_accepted payload).1 _ read
    obtain ⟨_, same, samples⟩ := shapes "n" _ (again.unique holds ▸ List.mem_singleton_self _)
    cases same
    have given := samples .mmlu "MMLU" _ ⟨⟨rfl, rfl⟩, (Task.ofName?_eq_some_iff _ _).1 (by decide)⟩
    refine given.resolve_right ?_
    rintro ⟨_, _, pair, _⟩
    cases pair
  have long : Holds refused [("n", .object [("metrics", .object [("avg",
      .list [.integer 1, .integer 0, .integer 0])])])] :=
    holds_encode (by simp only [String.reduceToList]; rfl)
  refine ⟨⟨_, read⟩, shaped, long, ?_⟩
  refine (samples_of_accepted refused).2 _ _ _ .average "avg" _ long (List.mem_singleton_self _)
    ⟨⟨rfl, rfl⟩, (Task.ofName?_eq_some_iff _ _).1 (by decide)⟩ ?_ ?_
  · rintro ⟨_, _, _, object, _⟩
    cases object
  · rintro ⟨_, _, pair, _⟩
    cases pair

theorem pair_accepted :
    let payload := Text.encode "\x7b\"n\":\x7b\"arc\":[1,0]\x7d\x7d"
    Holds payload [("n", .object [("arc", .list [.integer 1, .integer 0])])] ∧
      NodeRecord.SampleFor (Json.memberMap [("arc", .list [.integer 1, .integer 0])]) .arc "arc"
        (.list [.integer 1, .integer 0]) ∧
      ¬ Sample.IsObject (.list [.integer 1, .integer 0]) ∧ ∃ d, parse payload = .ok d := by
  intro payload
  have holds : Holds payload [("n", .object [("arc", .list [.integer 1, .integer 0])])] :=
    holds_encode (by simp only [String.reduceToList]; rfl)
  have decodes : Decodes [("n", .object [("arc", .list [.integer 1, .integer 0])])] := by
    intro m inside
    rw [List.mem_singleton.1 inside]
    exact ⟨_, rfl⟩
  refine ⟨holds, ⟨⟨rfl, rfl⟩, (Task.ofName?_eq_some_iff _ _).1 (by decide)⟩, ?_, _,
    (parse_eq_ok_iff payload _).2 ⟨_, holds, decodes, rfl⟩⟩
  rintro ⟨_, _, _, object, _⟩
  cases object

end Dataset

end Leaderboard
