import Leaderboard.Dataset.Payload
import Leaderboard.Proofs.Data.SortedMap
import Leaderboard.Proofs.Json.Grammar
import Leaderboard.Proofs.Text.Utf8

set_option autoImplicit false

namespace Leaderboard.Dataset

open Json (ValueText NameText MembersText Blank EndsAt skipSpace maxDepth)

def Decodes (members : List (String × Json)) : Prop :=
  ∀ m ∈ members, ∃ record, NodeRecord.ofJson m.2 = .ok record

def LastRecord (members : List (String × Json)) (node : NodeId) (record : NodeRecord) : Prop :=
  ∃ before value after, members = before ++ (node, value) :: after ∧
    (∀ m ∈ after, m.1 ≠ node) ∧ NodeRecord.ofJson value = .ok record

inductive Complete : List Char → List (String × Json) → Prop
  | nil : Complete [] []
  | cons {name item space front : List Char} {node : NodeId} {value : Json}
    {members : List (String × Json)} (named : NameText name node)
    (written : ValueText (maxDepth - 1) item value) (blank : Blank space)
    (rest : Complete front members) :
    Complete (name ++ (item ++ (space ++ ',' :: front))) ((node, value) :: members)

inductive Opening : List Char → List (String × Json) → NodeId → Prop
  | intro {space front name : List Char} {members : List (String × Json)} {node : NodeId}
    (blank : Blank space) (complete : Complete front members) (named : NameText name node) :
    Opening (space ++ '\x7b' :: (front ++ name)) members node

section record

variable {depth : Nat} {front more : List Char} {value : Json}

theorem skipSpace_value (written : ValueText depth front value) (more : List Char) :
    skipSpace (front ++ more) = skipSpace front ++ more := by
  obtain ⟨space, c, rest, blank, visible, -, rfl⟩ := written.begins
  rw [List.append_assoc, List.cons_append, Json.skipSpace_blank_cons blank visible,
    Json.skipSpace_blank_cons blank visible, List.cons_append]

theorem begins_brace_iff (written : ValueText depth front value) :
    (∃ rest, skipSpace front = '\x7b' :: rest) ↔ ∃ members, value = .object members := by
  cases written with
  | number blank written =>
    obtain ⟨c, rest, rfl, first⟩ := written.begins
    have brace : c ≠ '\x7b' := by rintro rfl; exact absurd first (by decide)
    rw [Json.skipSpace_blank_cons blank (Json.isSpace_of_begins first)]
    rcases written.isNumber with ⟨n, rfl⟩ | ⟨x, rfl⟩ <;> simp [brace]
  | emptyObject blank => simp [Json.skipSpace_blank_cons blank, Json.isSpace]
  | object blank => simp [Json.skipSpace_blank_cons blank, Json.isSpace]
  | _ blank => simp [Json.skipSpace_blank_cons blank, Json.isSpace]

theorem readRecord_object {cs rest : List Char} (begins : skipSpace cs = '\x7b' :: rest) :
    readRecord cs =
      match Json.readPart (maxDepth - 1) ('\x7b' :: rest) with
      | none => .error .malformed
      | some (value, more) =>
        match NodeRecord.ofJson value with
        | .ok record => .ok (record, more)
        | .error error => .error (.record error) := by
  rcases read : Json.readPart (maxDepth - 1) ('\x7b' :: rest) with _ | ⟨value, more⟩
  · simp only [readRecord, begins, read]
  · cases of : NodeRecord.ofJson value <;> simp only [readRecord, begins, read, of]

theorem readRecord_other {cs : List Char} (begins : ∀ rest, skipSpace cs ≠ '\x7b' :: rest) :
    readRecord cs =
      match readOther (skipSpace cs) with
      | some found => .error (.record (.notObject found))
      | none => .error .malformed := by
  unfold readRecord
  split
  next rest brace => exact absurd brace (begins rest)
  next => rfl

theorem readOther_value (written : ValueText depth front value) (ends : EndsAt value more)
    (other : ∀ members, value ≠ .object members) :
    ∃ found, readOther (skipSpace front ++ more) = some found ∧
      Mismatch.describe found = Mismatch.describe value := by
  -- Of a text or an array only the beginning is looked at, of a number all of it.
  cases written with
  | text blank text =>
    simp [Json.skipSpace_blank_cons blank, Json.isSpace, readOther, Json.readText_append text]
  | emptyList blank =>
    simp [Json.skipSpace_blank_cons blank, Json.isSpace, readOther]
  | list blank =>
    refine ⟨.list [], ?_, rfl⟩
    simp [Json.skipSpace_blank_cons blank, Json.isSpace, readOther]
  | emptyObject | object => exact absurd rfl (other _)
  | number blank written =>
    obtain ⟨c, rest, same, first⟩ := written.begins
    have apart : Json.Apart Json.continuesNumber more := by
      rcases written.isNumber with ⟨n, rfl⟩ | ⟨x, rfl⟩ <;> exact ends
    have read := Json.readScalar_append written apart
    rw [same] at read
    have others : c ≠ '[' ∧ c ≠ '"' := by
      constructor <;> rintro rfl <;> exact absurd first (by decide)
    refine ⟨value, ?_, rfl⟩
    rw [same, Json.skipSpace_blank_cons blank (Json.isSpace_of_begins first)]
    rw [List.cons_append, readOther.eq_3 _ (fun _ first => others.1 (List.cons.inj first).1)
      (fun _ first => others.2 (List.cons.inj first).1), ← List.cons_append, read, Option.map_some]
  | _ blank =>
    simp [Json.skipSpace_blank_cons blank, Json.isSpace, readOther, Json.readScalar, Json.readWord]

theorem ofJson_other (other : ∀ members, value ≠ .object members) :
    NodeRecord.ofJson value = .error (.notObject value) := by
  cases value with
  | object members => exact absurd rfl (other members)
  | _ => rfl

theorem message_notObject {found : Json}
    (same : Mismatch.describe found = Mismatch.describe value) :
    (RecordError.notObject found).message = (RecordError.notObject value).message :=
  congrArg (fun words => "invalid type: " ++ words ++ ", expected " ++ "a map") same

theorem readRecord_written {members : List (String × Json)}
    (written : ValueText (maxDepth - 1) front (.object members)) (more : List Char) :
    readRecord (front ++ more) =
      match NodeRecord.ofJson (.object members) with
      | .ok record => .ok (record, more)
      | .error error => .error (.record error) := by
  obtain ⟨rest, brace⟩ := (begins_brace_iff written).2 ⟨members, rfl⟩
  have begins : skipSpace (front ++ more) = '\x7b' :: (rest ++ more) := by
    rw [skipSpace_value written, brace, List.cons_append]
  have ends : EndsAt (.object members) more := trivial
  have read := Json.readPart_append written.skipSpace ends
  rw [brace, List.cons_append] at read
  rw [readRecord_object begins, read]

theorem readRecord_valid (written : ValueText (maxDepth - 1) front value) {record : NodeRecord}
    (decodes : NodeRecord.ofJson value = .ok record) (more : List Char) :
    readRecord (front ++ more) = .ok (record, more) := by
  by_cases object : ∃ members, value = .object members
  · obtain ⟨members, rfl⟩ := object
    simp only [readRecord_written written, decodes]
  · rw [ofJson_other (not_exists.1 object)] at decodes
    cases decodes

theorem readRecord_invalid (written : ValueText (maxDepth - 1) front value) {error : RecordError}
    (rejects : NodeRecord.ofJson value = .error error) (ends : EndsAt value more) :
    ∃ reported, readRecord (front ++ more) = .error (.record reported) ∧
      reported.message = error.message := by
  by_cases object : ∃ members, value = .object members
  · obtain ⟨members, rfl⟩ := object
    exact ⟨error, by simp only [readRecord_written written, rejects], rfl⟩
  · have other := not_exists.1 object
    have begins : ∀ rest, skipSpace (front ++ more) ≠ '\x7b' :: rest := by
      intro rest brace
      obtain ⟨space, c, inner, blank, visible, -, same⟩ := written.begins
      rw [skipSpace_value written, same, Json.skipSpace_blank_cons blank visible] at brace
      refine object ((begins_brace_iff written).1 ⟨inner, ?_⟩)
      rw [same, Json.skipSpace_blank_cons blank visible, (List.cons.inj brace).1]
    -- The value reported need not be the one written, but a message names both alike.
    obtain ⟨found, read, same⟩ := readOther_value written ends other
    rw [ofJson_other other] at rejects
    cases rejects
    refine ⟨.notObject found, ?_, message_notObject same⟩
    rw [readRecord_other begins, skipSpace_value written, read]

-- Where no value can be read the text is malformed, an array apart: its bracket is enough.
theorem readRecord_unreadable {cs : List Char} (broken : Json.readPart (maxDepth - 1) cs = none) :
    ((∀ rest, skipSpace cs ≠ '[' :: rest) → readRecord cs = .error .malformed) ∧
      ((∃ rest, skipSpace cs = '[' :: rest) →
        readRecord cs = .error (.record (.notObject (.list [])))) := by
  constructor
  · intro array
    by_cases object : ∃ rest, skipSpace cs = '\x7b' :: rest
    · obtain ⟨rest, brace⟩ := object
      -- An object that is read behind the blanks would be read with them as well.
      have part : Json.readPart (maxDepth - 1) (skipSpace cs) = none := by
        rw [Option.eq_none_iff_forall_ne_some]
        rintro ⟨value, more⟩ read
        obtain ⟨front, written, same⟩ := Json.exists_valueText read
        obtain ⟨members, rfl⟩ : ∃ members, value = .object members := by
          rw [brace] at same
          cases front with
          | nil => exact absurd written.length_pos (by simp)
          | cons c inner =>
            cases same
            exact (begins_brace_iff written).1 ⟨inner, Json.skipSpace_cons (by decide) inner⟩
        rw [Json.readPart_of_skipSpace read trivial] at broken
        cases broken
      rw [brace] at part
      rw [readRecord_object brace, part]
    · rw [readRecord_other fun rest brace => object ⟨rest, brace⟩]
      have unread : readOther (skipSpace cs) = none := by
        unfold readOther
        simp only [Json.readPart, Json.fuelFor, Json.readValue] at broken
        split at broken
        next rest quote => simp_all
        next rest bracket => exact absurd bracket (array rest)
        next rest brace => exact absurd ⟨rest, brace⟩ object
        next => simp_all
      rw [unread]
  · rintro ⟨rest, bracket⟩
    have begins : ∀ rest, skipSpace cs ≠ '\x7b' :: rest := by
      intro other brace
      rw [bracket] at brace
      cases brace
    rw [readRecord_other begins, bracket]
    rfl

end record

section members

variable {fuel : Nat} {name item space more : List Char} {node : NodeId} {value : Json}
  {record : NodeRecord} {d : Dataset}

theorem readMembers_skipSpace (fuel : Nat) (cs : List Char) (d : Dataset) :
    readMembers fuel (skipSpace cs) d = readMembers fuel cs d := by
  cases fuel with
  | zero => rfl
  | succ fuel => simp only [readMembers, Json.readName, Json.skipSpace_skipSpace]

theorem readMembers_error (named : NameText name node) {error : PayloadError}
    (failed : readRecord more = .error error) :
    readMembers (fuel + 1) (name ++ more) d = .error error := by
  simp only [readMembers, Json.readName_append named, failed]

theorem readMembers_comma (named : NameText name node)
    (written : ValueText (maxDepth - 1) item value) (decodes : NodeRecord.ofJson value = .ok record)
    (blank : Blank space) :
    readMembers (fuel + 1) (name ++ (item ++ (space ++ ',' :: more))) d =
      readMembers fuel more (d.insert node record) := by
  simp only [readMembers, Json.readName_append named, readRecord_valid written decodes,
    Json.skipSpace_blank_cons (c := ',') blank (by decide)]

theorem readMembers_brace (named : NameText name node)
    (written : ValueText (maxDepth - 1) item value) (decodes : NodeRecord.ofJson value = .ok record)
    (blank : Blank space) :
    readMembers (fuel + 1) (name ++ (item ++ (space ++ '\x7d' :: more))) d =
      .ok (d.insert node record, more) := by
  simp only [readMembers, Json.readName_append named, readRecord_valid written decodes,
    Json.skipSpace_blank_cons (c := '\x7d') blank (by decide)]

end members

def recordOf (value : Json) : NodeRecord :=
  match NodeRecord.ofJson value with
  | .ok record => record
  | .error _ => .empty

def recordsOf (members : List (String × Json)) : List (NodeId × NodeRecord) :=
  members.map (fun m => (m.1, recordOf m.2))

theorem recordOf_eq {value : Json} {record : NodeRecord}
    (decodes : NodeRecord.ofJson value = .ok record) : recordOf value = record := by
  simp only [recordOf, decodes]

theorem Decodes.cons_iff {m : String × Json} {members : List (String × Json)} :
    Decodes (m :: members) ↔ NodeRecord.ofJson m.2 = .ok (recordOf m.2) ∧ Decodes members := by
  rw [Decodes, List.forall_mem_cons]
  constructor
  · rintro ⟨⟨record, decodes⟩, rest⟩
    exact ⟨by rw [recordOf_eq decodes, decodes], rest⟩
  · rintro ⟨decodes, rest⟩
    exact ⟨⟨_, decodes⟩, rest⟩

theorem readMembers_complete {front : List Char} {members : List (String × Json)}
    (complete : Complete front members) (decodes : Decodes members) (fuel : Nat)
    (more : List Char) (d : Dataset) :
    readMembers (members.length + fuel) (front ++ more) d =
      readMembers fuel more ((recordsOf members).foldl (fun d e => d.insert e.1 e.2) d) := by
  induction complete generalizing d with
  | nil => simp [recordsOf]
  | @cons name item space front node value members named written blank rest ih =>
    obtain ⟨first, others⟩ := Decodes.cons_iff.1 decodes
    have reach : ((node, value) :: members).length + fuel = members.length + fuel + 1 := by
      simp only [List.length_cons]
      omega
    rw [reach]
    simp only [List.append_assoc, List.cons_append]
    rw [readMembers_comma named written first blank, ih others]
    rfl

theorem Complete.length_le {front : List Char} {members : List (String × Json)}
    (complete : Complete front members) : members.length ≤ front.length := by
  induction complete with
  | nil => exact Nat.le_refl _
  | cons named written blank rest ih =>
    simp only [List.length_append, List.length_cons]
    omega

theorem Complete.exists_fuel {front : List Char} {members : List (String × Json)}
    (complete : Complete front members) (more : List Char) :
    ∃ spare, (skipSpace (front ++ more)).length + 1 = members.length + (spare + 1) := by
  -- A first member begins with a quote, so only blanks in front of it are skipped.
  suffices enough : members.length ≤ (skipSpace (front ++ more)).length from
    ⟨_, by rw [← Nat.add_assoc, Nat.add_left_inj]; exact (Nat.add_sub_of_le enough).symm⟩
  cases complete with
  | nil => exact Nat.zero_le _
  | cons first written blank rest =>
    have shorter := rest.length_le
    obtain ⟨inner, others, hollow, rfl⟩ := first.begins
    simp only [List.append_assoc, List.cons_append,
      Json.skipSpace_blank_cons (c := '"') hollow (by decide), List.length_append, List.length_cons]
    omega

theorem readPayload_open {space rest : List Char} (blank : Blank space)
    (begins : ∃ inner others, Blank inner ∧ rest = inner ++ '"' :: others) :
    readPayload (space ++ '\x7b' :: rest) =
      readMembers ((skipSpace rest).length + 1) rest SortedMap.empty := by
  obtain ⟨inner, others, hollow, rfl⟩ := begins
  have first : skipSpace (inner ++ '"' :: others) = '"' :: others :=
    Json.skipSpace_blank_cons hollow (by decide) _
  rw [← readMembers_skipSpace _ (inner ++ '"' :: others)]
  simp only [readPayload, Json.skipSpace_blank_cons (c := '\x7b') blank (by decide), first]
  rfl

theorem Complete.begins {front name : List Char} {members : List (String × Json)}
    {node : NodeId} (complete : Complete front members) (named : NameText name node)
    (more : List Char) :
    ∃ inner others, Blank inner ∧ front ++ (name ++ more) = inner ++ '"' :: others := by
  cases complete with
  | nil =>
    obtain ⟨inner, others, hollow, rfl⟩ := named.begins
    exact ⟨inner, others ++ more, hollow, by simp⟩
  | cons first =>
    obtain ⟨inner, others, hollow, rfl⟩ := first.begins
    simp only [List.append_assoc, List.cons_append]
    exact ⟨inner, _, hollow, rfl⟩

theorem readPayload_error {opening rest : List Char} {members : List (String × Json)}
    {node : NodeId} (opened : Opening opening members node) (decodes : Decodes members)
    {error : PayloadError} (failed : readRecord rest = .error error) :
    readPayload (opening ++ rest) = .error error := by
  cases opened with
  | @intro _ _ name _ _ blank complete named =>
    obtain ⟨spare, reach⟩ := complete.exists_fuel (name ++ rest)
    simp only [List.append_assoc, List.cons_append]
    rw [readPayload_open blank (complete.begins named rest), reach,
      readMembers_complete complete decodes, readMembers_error named failed]

theorem exists_complete {pairs : List Char} {members : List (String × Json)}
    (written : MembersText (maxDepth - 1) pairs members) :
    ∃ front init name item space node value, Complete front init ∧ NameText name node ∧
      ValueText (maxDepth - 1) item value ∧ Blank space ∧
      pairs = front ++ (name ++ (item ++ (space ++ ['\x7d']))) ∧
      members = init ++ [(node, value)] := by
  induction members generalizing pairs with
  | nil => cases written
  | cons m others ih =>
    cases written with
    | last named first blank =>
      exact ⟨[], [], _, _, _, _, _, .nil, named, first, blank, rfl, rfl⟩
    | cons named first blank rest =>
      obtain ⟨front, init, name, item, space, node, value, complete, last, written, closing, same,
        split⟩ := ih rest
      refine ⟨_, _, name, item, space, node, value, .cons named first blank complete, last,
        written, closing, ?_, ?_⟩
      · rw [same]
        simp
      · rw [split]
        rfl

theorem readPayload_object {front : List Char} {members : List (String × Json)}
    (written : ValueText maxDepth front (.object members)) (decodes : Decodes members)
    (more : List Char) :
    readPayload (front ++ more) = .ok (SortedMap.ofList (recordsOf members), more) := by
  cases written with
  | emptyObject blank hollow =>
    simp [readPayload, Json.skipSpace_blank_cons blank, Json.skipSpace_blank_cons hollow,
      Json.isSpace, SortedMap.ofList, recordsOf]
  | object blank inside =>
    obtain ⟨front, init, name, item, space, node, value, complete, named, written, closing, rfl,
      rfl⟩ := exists_complete inside
    obtain ⟨spare, reach⟩ := complete.exists_fuel (name ++ (item ++ (space ++ '\x7d' :: more)))
    simp only [List.append_assoc, List.cons_append, List.nil_append]
    have init : Decodes init := fun m inside => decodes m (List.mem_append_left _ inside)
    have last : NodeRecord.ofJson value = .ok (recordOf value) :=
      (Decodes.cons_iff.1 fun m inside => decodes m (List.mem_append_right _ inside)).1
    rw [readPayload_open blank (complete.begins named _), reach, readMembers_complete complete init,
      readMembers_brace named written last closing]
    simp only [SortedMap.ofList, recordsOf, List.map_append, List.foldl_append, List.map_cons,
      List.map_nil, List.foldl_cons, List.foldl_nil]
  | number blank written => rcases written.isNumber with ⟨n, number⟩ | ⟨x, number⟩ <;> cases number

theorem find?_recordsOf {members : List (String × Json)} (decodes : Decodes members)
    (node : NodeId) (record : NodeRecord) :
    (SortedMap.ofList (recordsOf members)).find? node = some record ↔
      LastRecord members node record := by
  have read : ∀ m ∈ members, NodeRecord.ofJson m.2 = .ok (recordOf m.2) := by
    intro m inside
    obtain ⟨record, known⟩ := decodes m inside
    rw [recordOf_eq known, known]
  rw [SortedMap.find?_ofList_eq_some_iff]
  constructor
  · rintro ⟨before, after, same, later⟩
    obtain ⟨front, rest, rfl, -, split⟩ := List.map_eq_append_iff.1 same
    obtain ⟨⟨name, value⟩, back, rfl, entry, rfl⟩ := List.map_eq_cons_iff.1 split
    cases entry
    refine ⟨front, value, back, rfl, ?_, read (name, value) (by simp)⟩
    intro m inside
    exact later _ (List.mem_map_of_mem inside)
  · rintro ⟨before, value, after, rfl, later, known⟩
    have here := recordOf_eq known
    refine ⟨recordsOf before, recordsOf after, by simp [recordsOf, here], ?_⟩
    intro e inside
    obtain ⟨m, original, rfl⟩ := List.mem_map.1 inside
    exact later m original

theorem parse_of_readPayload {bytes : List UInt8} {d : Dataset} {rest : List Char}
    (read : readPayload (Text.decodeStrict bytes) = .ok (d, rest)) (blank : Blank rest) :
    parse bytes = .ok d := by
  have nothing : skipSpace rest = [] := by
    rw [← List.append_nil rest, Json.skipSpace_append blank (Json.apart_nil _)]
  simp only [parse, ofText, read, nothing, Bind.bind, Except.bind, Pure.pure, Except.pure,
    List.isEmpty_nil, if_true]

theorem parse_of_error {bytes : List UInt8} {error : PayloadError}
    (failed : readPayload (Text.decodeStrict bytes) = .error error) :
    parse bytes = .error ⟨.parse, "invalid leaderboard payload: " ++ error.message⟩ := by
  simp only [parse, ofText, failed, Bind.bind, Except.bind]

theorem parse_reports_first :
    (∀ (text : String) (front trailing : List Char) (members : List (String × Json)),
      text.toList = front ++ trailing → ValueText maxDepth front (.object members) →
      Blank trailing → Decodes members →
      ∃ d, parse (Text.encode text) = .ok d ∧
        ∀ node record, d.find? node = some record ↔ LastRecord members node record) ∧
    ∀ (opening : String) (members : List (String × Json)) (node : NodeId),
      Opening opening.toList members node → Decodes members →
      (∀ (item : String) (value : Json) (error : RecordError) (bytes : List UInt8),
        ValueText (maxDepth - 1) item.toList value → EndsAt value (Text.decodeStrict bytes) →
        NodeRecord.ofJson value = .error error →
        parse (Text.encode opening ++ (Text.encode item ++ bytes)) =
          .error ⟨.parse, "invalid leaderboard payload: " ++ error.message⟩) ∧
      ∀ bytes : List UInt8, Json.readPart (maxDepth - 1) (Text.decodeStrict bytes) = none →
        ((∀ rest, skipSpace (Text.decodeStrict bytes) ≠ '[' :: rest) →
          parse (Text.encode opening ++ bytes) =
            .error ⟨.parse, "invalid leaderboard payload: malformed JSON"⟩) ∧
        ((∃ rest, skipSpace (Text.decodeStrict bytes) = '[' :: rest) →
          parse (Text.encode opening ++ bytes) =
            .error ⟨.parse,
              "invalid leaderboard payload: invalid type: sequence, expected a map"⟩) := by
  constructor
  · intro text front trailing members same written blank decodes
    have read := readPayload_object written decodes trailing
    rw [← same, ← Text.decodeStrict_encode] at read
    exact ⟨_, parse_of_readPayload read blank, find?_recordsOf decodes⟩
  · intro opening members node opened decodes
    constructor
    · intro item value error bytes written ends rejects
      obtain ⟨reported, failed, message⟩ := readRecord_invalid written rejects ends
      have read := readPayload_error opened decodes failed
      rw [← Text.decodeStrict_encode_append, ← Text.decodeStrict_encode_append] at read
      rw [parse_of_error read, ← message]
      rfl
    · intro bytes broken
      obtain ⟨malformed, array⟩ := readRecord_unreadable broken
      constructor
      · intro first
        have read := readPayload_error opened decodes (malformed first)
        rw [← Text.decodeStrict_encode_append] at read
        rw [parse_of_error read]
        rfl
      · intro first
        have read := readPayload_error opened decodes (array first)
        rw [← Text.decodeStrict_encode_append] at read
        rw [parse_of_error read]
        rfl

-- A repeated node; a number for a record, before broken text; and a record that breaks off.
theorem parse_reports_first_broken :
    (∃ d,
      parse (Text.encode "\x7b\"n\":\x7b\"metadata\":\x7b\x7d\x7d,\"n\":\x7b\x7d\x7d ") = .ok d ∧
      d.find? "n" = some ⟨.empty, none, none⟩) ∧
    parse (Text.encode "\x7b\"m\":\x7b\x7d,\"n\":" ++ (Text.encode "5" ++ Text.encode " ]")) =
      .error ⟨.parse, "invalid leaderboard payload: invalid type: integer `5`, expected a map"⟩ ∧
    parse (Text.encode "\x7b\"m\":\x7b\x7d,\"n\":" ++ Text.encode "\x7b\"arc\"") =
      .error ⟨.parse, "invalid leaderboard payload: malformed JSON"⟩ := by
  have whole : ValueText maxDepth
      "\x7b\"n\":\x7b\"metadata\":\x7b\x7d\x7d,\"n\":\x7b\x7d\x7d".toList
      (.object [("n", .object [("metadata", .object [])]), ("n", .object [])]) := by
    simp only [String.reduceToList]
    exact Json.readPart_eq_some_iff.1 rfl
  have repeated : Decodes [("n", .object [("metadata", .object [])]), ("n", .object [])] := by
    intro m inside
    rcases List.mem_pair.1 inside with rfl | rfl <;> exact ⟨_, rfl⟩
  have opened : Opening "\x7b\"m\":\x7b\x7d,\"n\":".toList [("m", .object [])] "n" := by
    have first : NameText ['"', 'm', '"', ':'] "m" := Json.readName_eq_some_iff.1 rfl
    have second : NameText ['"', 'n', '"', ':'] "n" := Json.readName_eq_some_iff.1 rfl
    have record : ValueText (maxDepth - 1) ['\x7b', '\x7d'] (.object []) :=
      Json.readPart_eq_some_iff.1 rfl
    simp only [String.reduceToList]
    exact .intro Json.blank_nil (.cons first record Json.blank_nil .nil) second
  have valid : Decodes [("m", .object [])] := by
    intro m inside
    rw [List.mem_singleton.1 inside]
    exact ⟨_, rfl⟩
  refine ⟨?_, ?_, ?_⟩
  · obtain ⟨d, read, sends⟩ := parse_reports_first.1
      "\x7b\"n\":\x7b\"metadata\":\x7b\x7d\x7d,\"n\":\x7b\x7d\x7d " _ [' '] _
      (by simp only [String.reduceToList, List.cons_append, List.nil_append]) whole
      (by simp [Blank, Json.isSpace]) repeated
    exact ⟨d, read, (sends _ _).2 ⟨[("n", _)], .object [], [], rfl, by simp, rfl⟩⟩
  · have five : ValueText (maxDepth - 1) "5".toList (.integer 5) :=
      Json.readPart_eq_some_iff.1 (by simp only [String.reduceToList]; rfl)
    have ends : EndsAt (.integer 5) (Text.decodeStrict (Text.encode " ]")) := by
      rw [Text.decodeStrict_encode]
      simp [EndsAt, Json.Apart, Json.continuesNumber]
    have message : "invalid leaderboard payload: " ++ (RecordError.notObject (.integer 5)).message =
        "invalid leaderboard payload: invalid type: integer `5`, expected a map" := by
      decide +kernel
    rw [← message]
    exact (parse_reports_first.2 _ _ _ opened valid).1 "5" _ _ _ five ends rfl
  · have broken : Json.readPart (maxDepth - 1)
        (Text.decodeStrict (Text.encode "\x7b\"arc\"")) = none := by
      rw [Text.decodeStrict_encode]
      simp only [String.reduceToList]
      rfl
    have other : ∀ rest,
        skipSpace (Text.decodeStrict (Text.encode "\x7b\"arc\"")) ≠ '[' :: rest := by
      rw [Text.decodeStrict_encode]
      simp [skipSpace, Json.isSpace]
    exact ((parse_reports_first.2 _ _ _ opened valid).2 _ broken).1 other

-- An array that breaks off is reported as an array, not as malformed.
theorem parse_broken_array :
    Opening "\x7b\"n\":".toList [] "n" ∧ Decodes [] ∧
      Json.readPart (maxDepth - 1) (Text.decodeStrict (Text.encode " [oops")) = none ∧
      parse (Text.encode "\x7b\"n\":" ++ Text.encode " [oops") ≠
        .error ⟨.parse, "invalid leaderboard payload: malformed JSON"⟩ := by
  have opened : Opening "\x7b\"n\":".toList [] "n" := by
    have name : NameText ['"', 'n', '"', ':'] "n" := Json.readName_eq_some_iff.1 rfl
    simp only [String.reduceToList]
    exact .intro Json.blank_nil .nil name
  have nothing : Decodes [] := nofun
  have broken : Json.readPart (maxDepth - 1) (Text.decodeStrict (Text.encode " [oops")) = none := by
    rw [Text.decodeStrict_encode]
    simp only [String.reduceToList]
    rfl
  have bracket : ∃ rest, skipSpace (Text.decodeStrict (Text.encode " [oops")) = '[' :: rest := by
    rw [Text.decodeStrict_encode]
    simp [skipSpace, Json.isSpace]
  have read := readPayload_error opened nothing ((readRecord_unreadable broken).2 bracket)
  rw [← Text.decodeStrict_encode_append] at read
  refine ⟨opened, nothing, broken, ?_⟩
  rw [parse_of_error read]
  intro same
  have messages := congrArg Failure.message (Except.error.inj same)
  exact absurd messages (by decide)

end Leaderboard.Dataset
