import Leaderboard.Dashboard.Router
import Leaderboard.Proofs.Dataset.Acceptance
import Leaderboard.Proofs.Dataset.Shapes
import Leaderboard.Proofs.Json.Writing

set_option autoImplicit false

namespace Leaderboard

open Json (Plain)

structure Sample.Finite (s : Sample) : Prop where
  mean : Decimal.isFinite s.mean = true
  stderr : Decimal.isFinite s.stderr = true

structure Qos.Finite (q : Qos) : Prop where
  responseTime : Decimal.isFinite q.responseTime = true
  errorRate : Decimal.isFinite q.errorRate = true

structure NodeRecord.Finite (r : NodeRecord) : Prop where
  samples : ∀ task sample, r.sample? task = some sample → sample.Finite
  qos : ∀ q, r.qos = some q → q.Finite

def Dataset.Finite (d : Dataset) : Prop := ∀ node record, d.find? node = some record → record.Finite

section plain

variable {depth : Nat}

theorem plain_object {members : List (String × Json)} (plain : ∀ m ∈ members, Plain depth m.2) :
    Plain (depth + 1) (.object members) :=
  .object (Json.plainMembers_iff.2 plain)

theorem Sample.Finite.plain {s : Sample} (finite : s.Finite) : Plain (depth + 1) s.toJson := by
  refine plain_object fun m inside => ?_
  rcases List.mem_pair.1 inside with rfl | rfl
  · exact .real finite.mean
  · exact .real finite.stderr

theorem Qos.Finite.plain {q : Qos} (finite : q.Finite) : Plain (depth + 1) q.toJson := by
  refine plain_object fun m inside => ?_
  rcases List.mem_pair.1 inside with rfl | rfl
  · exact .real finite.responseTime
  · exact .real finite.errorRate

theorem NodeMetadata.plain (m : NodeMetadata) : Plain (depth + 1) m.toJson := by
  refine plain_object fun member inside => ?_
  simp only [List.mem_append, Option.mem_toList, Option.map_eq_some_iff] at inside
  rcases inside with (⟨service, -, rfl⟩ | ⟨height, -, rfl⟩) | ⟨time, -, rfl⟩
  · exact .text service
  · have size := height.toNat_lt
    exact .integer (by omega) (by omega)
  · exact .text time

theorem NodeRecord.Finite.plain {r : NodeRecord} (finite : r.Finite) :
    Plain (depth + 3) r.toJson := by
  refine plain_object fun member inside => ?_
  simp only [List.cons_append, List.mem_cons, List.mem_append, Option.mem_toList,
    Option.map_eq_some_iff] at inside
  rcases inside with rfl | ⟨q, known, rfl⟩ | ⟨m, -, rfl⟩
  -- The samples stand one level deeper than the other parts.
  · refine plain_object fun entry written => ?_
    obtain ⟨⟨task, sample⟩, stored, rfl⟩ := List.mem_map.1 written
    exact (finite.samples task sample ((SortedMap.mem_entries_iff _ _ _).1 stored)).plain
  · exact (finite.qos q known).plain
  · exact m.plain

theorem Dataset.Finite.plain {d : Dataset} (finite : d.Finite) : Plain (depth + 4) d.toJson := by
  refine plain_object fun member inside => ?_
  obtain ⟨⟨node, record⟩, stored, rfl⟩ := List.mem_map.1 inside
  exact (finite node record ((SortedMap.mem_entries_iff _ _ _).1 stored)).plain

end plain

theorem Sample.ofJson_toJson (s : Sample) : ofJson s.toJson = .ok s := by
  simp [ofJson, toJson, ofFields, readField, NodeRecord.find?_memberMap, SortedMap.findEntry,
    readReal, required, Bind.bind, Except.bind, Except.map, Pure.pure, Except.pure]

theorem Qos.ofJson_toJson (q : Qos) : ofJson q.toJson = .ok q := by
  simp [ofJson, toJson, ofFields, readField, NodeRecord.find?_memberMap, SortedMap.findEntry,
    readReal, required, Bind.bind, Except.bind, Except.map, Pure.pure, Except.pure]

theorem readOptional_height (h : UInt64) :
    readOptional readHeight (.nat h.toNat) = .ok (some h) := by
  have nonneg : ¬ (h.toNat : Int) < 0 := by omega
  simp [readOptional, readHeight, Json.nat, nonneg, Except.map]

theorem readOptional_text (s : String) : readOptional readString (.text s) = .ok (some s) := rfl

theorem NodeMetadata.ofJson_toJson (m : NodeMetadata) : ofJson m.toJson = .ok m := by
  obtain ⟨service, height, time⟩ := m
  cases service <;> cases height <;> cases time <;>
    simp [ofJson, toJson, ofFields, readField, NodeRecord.find?_memberMap, SortedMap.findEntry,
      readOptional_height, readOptional_text, Bind.bind, Except.bind, Except.map, Pure.pure,
      Except.pure]

namespace NodeRecord

theorem names_name (task : Task) : task.Names task.name := by
  cases task <;> exact .inl (by decide)

def writtenSamples (r : NodeRecord) : List (String × Json) :=
  r.samples.entries.map (fun e => (e.1.name, e.2.toJson))

def written (r : NodeRecord) : SortedMap String Json :=
  Json.memberMap (("metrics", .object r.writtenSamples) ::
    partMembers (r.qos.map Qos.toJson) (r.metadata.map NodeMetadata.toJson))

theorem ofJson_toJson_eq (r : NodeRecord) : ofJson r.toJson = ofFields r.written := by
  obtain ⟨samples, qos, metadata⟩ := r
  cases qos <;> cases metadata <;> rfl

variable (r : NodeRecord)

theorem find?_written (key : String) :
    r.written.find? key =
      (SortedMap.findEntry key
        (partMembers (r.qos.map Qos.toJson) (r.metadata.map NodeMetadata.toJson)).reverse).or
        (SortedMap.findEntry key [("metrics", .object r.writtenSamples)]) := by
  rw [written, find?_memberMap, List.reverse_cons, SortedMap.findEntry_append]

theorem written_qos : r.written.find? "qos" = r.qos.map Qos.toJson := by
  rw [find?_written, findEntry_qos]
  simp [SortedMap.findEntry]

theorem written_metadata : r.written.find? "metadata" = r.metadata.map NodeMetadata.toJson := by
  rw [find?_written, findEntry_metadata]
  simp [SortedMap.findEntry]

theorem written_metrics : r.written.find? "metrics" = some (.object r.writtenSamples) := by
  rw [find?_written, findEntry_metrics]
  simp [SortedMap.findEntry]

theorem mem_writtenSamples {key : String} {value : Json} {task : Task}
    (inside : (key, value) ∈ r.writtenSamples) (names : task.Names key) :
    key = task.name ∧ ∃ sample, r.sample? task = some sample ∧ value = sample.toJson := by
  obtain ⟨⟨other, sample⟩, stored, same⟩ := List.mem_map.1 inside
  cases same
  cases (names_name other).unique names
  exact ⟨rfl, sample, (SortedMap.mem_entries_iff _ _ _).1 stored, rfl⟩

theorem findEntry_writtenSamples {task : Task} {sample : Sample}
    (stored : r.sample? task = some sample) :
    SortedMap.findEntry task.name r.writtenSamples.reverse = some sample.toJson := by
  cases found : SortedMap.findEntry task.name r.writtenSamples.reverse with
  | none =>
    have here : (task.name, sample.toJson) ∈ r.writtenSamples.reverse :=
      List.mem_reverse.2 (List.mem_map_of_mem ((SortedMap.mem_entries_iff _ _ _).2 stored))
    exact absurd rfl ((SortedMap.findEntry_eq_none_iff _ _).1 found _ here)
  | some value =>
    have inside := List.mem_reverse.1 (SortedMap.mem_of_findEntry found)
    obtain ⟨-, other, known, rfl⟩ := r.mem_writtenSamples inside (names_name task)
    rw [stored] at known
    cases known
    rfl

theorem sampleFor_written (task : Task) (key : String) (value : Json) :
    SampleFor r.written task key value ↔
      key = task.name ∧ ∃ sample, r.sample? task = some sample ∧ value = sample.toJson := by
  have lookup : sampleAt? r.written key = SortedMap.findEntry key r.writtenSamples.reverse := by
    rw [sampleAt?, written_metrics]
    exact find?_memberMap _ key
  rw [SampleFor, lookup]
  constructor
  · rintro ⟨⟨found, -⟩, names⟩
    exact r.mem_writtenSamples (List.mem_reverse.1 (SortedMap.mem_of_findEntry found)) names
  · rintro ⟨rfl, sample, stored, rfl⟩
    exact ⟨⟨r.findEntry_writtenSamples stored, rfl⟩, names_name task⟩

theorem tells_written {α : Type} {read : Json → Except Mismatch α} {write : α → Json}
    (reads : ∀ a, read (write a) = .ok a) (filled : ∀ a, (write a).isNull = false)
    (part : Option α) : Tells read (part.map write) part := by
  cases part with
  | none => exact .absent fun value given => nomatch given.1
  | some a => exact .present ⟨rfl, filled a⟩ (reads a)

theorem fits_of_tells {α : Type} {read : Json → Except Mismatch α} {part : Option Json}
    {result : Option α} (tells : Tells read part result) : Fits read part := by
  intro value given
  cases tells with
  | absent missing => exact absurd given (missing value)
  | present other reads =>
    cases given.unique other
    exact ⟨_, reads⟩

theorem describes_written : Describes r.written r := by
  constructor
  case qos =>
    rw [written_qos]
    exact tells_written Qos.ofJson_toJson (fun _ => rfl) r.qos
  case metadata =>
    rw [written_metadata]
    exact tells_written NodeMetadata.ofJson_toJson (fun _ => rfl) r.metadata
  case samples =>
    intro task sample
    constructor
    · intro stored
      -- A task is written under its own name alone, so no other spelling rivals it.
      refine ⟨task.name, sample.toJson, ⟨?_, ?_⟩, sample.ofJson_toJson⟩
      · exact (r.sampleFor_written _ _ _).2 ⟨rfl, sample, stored, rfl⟩
      · exact fun other rival given => .inl ((r.sampleFor_written _ _ _).1 given).1
    · rintro ⟨key, value, counts, reads⟩
      obtain ⟨-, other, stored, rfl⟩ := (r.sampleFor_written _ _ _).1 counts.given
      rw [other.ofJson_toJson] at reads
      cases reads
      exact stored
  case absent =>
    intro task
    simp only [sampleFor_written]
    constructor
    · rintro missing key value ⟨-, sample, stored, -⟩
      rw [missing] at stored
      cases stored
    · intro missing
      cases stored : r.sample? task with
      | none => rfl
      | some sample => exact absurd ⟨rfl, sample, stored, rfl⟩ (missing task.name sample.toJson)

theorem ofJson_toJson : ofJson r.toJson = .ok r := by
  have describes := r.describes_written
  rw [ofJson_toJson_eq, ofFields_eq_ok_iff]
  refine ⟨⟨fits_of_tells describes.qos, fits_of_tells describes.metadata, ?_, ?_⟩, describes⟩
  · intro value given
    have found := given.1
    rw [written_metrics] at found
    cases found
    exact ⟨_, rfl⟩
  · intro task key value given
    obtain ⟨-, sample, -, rfl⟩ := (r.sampleFor_written _ _ _).1 given
    exact ⟨sample, sample.ofJson_toJson⟩

end NodeRecord

section finite

variable {depth : Nat} {value : Json}

theorem isFinite_of_readReal {x : Float} (plain : Plain depth value)
    (read : readReal value = .ok x) : Decimal.isFinite x = true := by
  cases plain with
  | integer least greatest =>
    cases read
    exact Decimal.isFinite_realOfInt (by omega)
  | real finite =>
    cases read
    exact finite
  | _ => cases read

theorem plain_of_find? {members : List (String × Json)} (plain : Plain depth (.object members))
    {key : String} (found : (Json.memberMap members).find? key = some value) :
    ∃ inner, Plain inner value := by
  cases plain with
  | object inside =>
    rw [NodeRecord.find?_memberMap] at found
    have written := List.mem_reverse.1 (SortedMap.mem_of_findEntry found)
    exact ⟨_, Json.plainMembers_iff.1 inside _ written⟩

theorem isFinite_of_field {members : List (String × Json)} (plain : Plain depth (.object members))
    {name : String} {part : Option Float} {x : Float}
    (read : readField readReal (Json.memberMap members) name = .ok part)
    (given : required name part = .ok x) : Decimal.isFinite x = true := by
  unfold readField at read
  split at read
  next value found =>
    obtain ⟨inner, valuePlain⟩ := plain_of_find? plain found
    obtain ⟨y, reads, rfl⟩ := (map_eq_ok_iff _ _ _).1 read
    cases given
    exact isFinite_of_readReal valuePlain reads
  next =>
    cases read
    cases given

theorem isFinite_of_pair {items : List Json} (plain : Plain depth (.list items)) {name : String}
    {a b : Float} (read : readPair name items = .ok (a, b)) :
    Decimal.isFinite a = true ∧ Decimal.isFinite b = true := by
  cases plain with
  | list inside =>
    rw [Json.plainItems_iff] at inside
    match items with
    | [] => cases read
    | [first] =>
      simp only [readPair, bind_eq_ok_iff] at read
      obtain ⟨x, -, short⟩ := read
      cases short
    | first :: second :: rest =>
      simp only [readPair, bind_eq_ok_iff] at read
      obtain ⟨x, firstRead, y, secondRead, finish⟩ := read
      split at finish
      next =>
        cases finish
        exact ⟨isFinite_of_readReal (inside first (by simp)) firstRead,
          isFinite_of_readReal (inside second (by simp)) secondRead⟩
      next => cases finish

theorem Sample.finite_of_ofJson {s : Sample} (plain : Plain depth value)
    (read : ofJson value = .ok s) : s.Finite := by
  cases value with
  | object members =>
    simp only [ofJson, ofFields, bind_eq_ok_iff] at read
    obtain ⟨_, meanRead, _, stderrRead, mean, meanGiven, stderr, stderrGiven, same⟩ := read
    cases same
    exact ⟨isFinite_of_field plain meanRead meanGiven,
      isFinite_of_field plain stderrRead stderrGiven⟩
  | list items =>
    obtain ⟨⟨mean, stderr⟩, pair, rfl⟩ := (map_eq_ok_iff _ _ _).1 read
    obtain ⟨first, second⟩ := isFinite_of_pair plain pair
    exact ⟨first, second⟩
  | _ => cases read

theorem Qos.finite_of_ofJson {q : Qos} (plain : Plain depth value)
    (read : ofJson value = .ok q) : q.Finite := by
  cases value with
  | object members =>
    simp only [ofJson, ofFields, bind_eq_ok_iff] at read
    obtain ⟨_, rateRead, _, timeRead, time, timeGiven, rate, rateGiven, same⟩ := read
    cases same
    exact ⟨isFinite_of_field plain timeRead timeGiven, isFinite_of_field plain rateRead rateGiven⟩
  | list items =>
    obtain ⟨⟨time, rate⟩, pair, rfl⟩ := (map_eq_ok_iff _ _ _).1 read
    obtain ⟨first, second⟩ := isFinite_of_pair plain pair
    exact ⟨first, second⟩
  | _ => cases read

theorem plain_of_sampleAt? {members : List (String × Json)} (plain : Plain depth (.object members))
    {key : String} (found : NodeRecord.sampleAt? (Json.memberMap members) key = some value) :
    ∃ inner, Plain inner value := by
  unfold NodeRecord.sampleAt? at found
  split at found
  next nested metrics =>
    obtain ⟨inner, nestedPlain⟩ := plain_of_find? plain metrics
    exact plain_of_find? nestedPlain found
  next => cases found
  next =>
    split at found
    next => cases found
    next => exact plain_of_find? plain found

theorem NodeRecord.finite_of_ofJson {r : NodeRecord} (plain : Plain depth value)
    (read : ofJson value = .ok r) : r.Finite := by
  cases value with
  | object members =>
    obtain ⟨-, describes⟩ := (ofFields_eq_ok_iff r).1 read
    constructor
    case samples =>
      intro task sample stored
      obtain ⟨key, value, counts, reads⟩ := (describes.samples task sample).1 stored
      obtain ⟨inner, valuePlain⟩ := plain_of_sampleAt? plain counts.given.1.1
      exact sample.finite_of_ofJson valuePlain reads
    case qos =>
      intro q known
      have tells := describes.qos
      rw [known] at tells
      cases tells with
      | present given reads =>
        obtain ⟨inner, valuePlain⟩ := plain_of_find? plain given.1
        exact q.finite_of_ofJson valuePlain reads
  | _ => cases read

end finite

namespace Dataset

theorem finite_of_parse {payload : List UInt8} {d : Dataset} (read : parse payload = .ok d) :
    d.Finite := by
  obtain ⟨members, ⟨front, _, -, written, -⟩, decodes, rfl⟩ := (parse_eq_ok_iff payload d).1 read
  intro node record found
  obtain ⟨before, value, after, rfl, -, known⟩ := (find?_recordsOf decodes node record).1 found
  generalize Json.maxDepth = depth at written
  cases written.plain with
  | object inside =>
    have plain := Json.plainMembers_iff.1 inside (node, value) (by simp)
    exact record.finite_of_ofJson plain known

theorem parse_compact {d : Dataset} (finite : d.Finite) :
    parse (Text.encode d.toJson.compact) = .ok d := by
  -- Four levels of nesting are needed, of many more that are allowed.
  have plain : Plain Json.maxDepth d.toJson := finite.plain
  have decodes : Decodes (d.entries.map fun e => (e.1, e.2.toJson)) := by
    intro m inside
    obtain ⟨e, -, rfl⟩ := List.mem_map.1 inside
    exact ⟨e.2, e.2.ofJson_toJson⟩
  have records : recordsOf (d.entries.map fun e => (e.1, e.2.toJson)) = d.entries := by
    rw [recordsOf, List.map_map]
    refine (List.map_congr_left fun e _ => ?_).trans (List.map_id _)
    simp [recordOf_eq e.2.ofJson_toJson]
  have text : Text.decodeStrict (Text.encode d.toJson.compact) = d.toJson.write ++ [] := by
    rw [Text.decodeStrict_encode, Json.compact, String.toList_ofList, List.append_nil]
  refine (parse_eq_ok_iff _ d).2 ⟨_, ⟨_, [], text, plain.valueText, Json.blank_nil⟩, decodes, ?_⟩
  rw [records, SortedMap.ofList_entries]

theorem finite_empty : Dataset.Finite SortedMap.empty := fun _ _ found => nomatch found

theorem Finite.insert {d : Dataset} (finite : d.Finite) (node : NodeId) {record : NodeRecord}
    (recordFinite : record.Finite) : Dataset.Finite (d.insert node record) := by
  intro other found same
  rw [SortedMap.find?_insert] at same
  split at same
  next =>
    cases same
    exact recordFinite
  next => exact finite other found same

theorem parse_serialized :
    (∀ d : Dataset, d.Finite → parse (Text.encode d.toJson.compact) = .ok d ∧
      ∀ (c : Dashboard.Context) (r : Dashboard.Request), c.snapshot.dataset = some d →
        r.method = "GET" → r.target.path = "/api/raw" →
        (c.respond r).1.status = 200 ∧ (c.respond r).1.body = d.toJson.compact) ∧
    ∀ (payload : List UInt8) (d : Dataset), parse payload = .ok d →
      d.Finite ∧ parse (Text.encode d.toJson.compact) = .ok d := by
  constructor
  · intro d finite
    refine ⟨parse_compact finite, ?_⟩
    intro c r loaded method path
    have answer : (c.respond r).1 = .json 200 d.toJson := by
      simp [Dashboard.Context.respond, Dashboard.Endpoint.ofPath?, Dashboard.Context.read,
        Dashboard.Context.raw, path, method, loaded]
    rw [answer]
    exact ⟨rfl, rfl⟩
  · intro payload d read
    have finite := finite_of_parse read
    exact ⟨finite, parse_compact finite⟩

theorem parse_serialized_sample :
    let half := Float.ofBits 0x3FE0000000000000
    let record : NodeRecord := ⟨SortedMap.empty.insert .arc ⟨half, half⟩, none, some .none⟩
    let d : Dataset := SortedMap.empty.insert "node\n1" record
    let snapshot : Refresh.Snapshot :=
      ⟨.idle, some .succeeded, some d, "", [], none, none, none, 1, 1, true⟩
    let c : Dashboard.Context := ⟨snapshot, .light, ⟨false, "node", false⟩, ⟨0⟩, false⟩
    d.Finite ∧ parse (Text.encode d.toJson.compact) = .ok d ∧
      (c.respond ⟨"GET", ⟨"/api/raw", ""⟩, [], ""⟩).1.body = d.toJson.compact ∧
      parse (Text.encode d.toJson.compact) = .ok d := by
  intro half record d snapshot c
  have ordinary : Decimal.isFinite half = true := Decimal.isFinite_ofBits (by decide)
  have recordFinite : record.Finite := by
    constructor
    case samples =>
      intro task sample stored
      have stored : (SortedMap.empty.insert Task.arc (⟨half, half⟩ : Sample)).find? task =
          some sample := stored
      rw [SortedMap.find?_insert] at stored
      split at stored
      next =>
        cases stored
        exact ⟨ordinary, ordinary⟩
      next => cases stored
    case qos => exact fun q known => nomatch known
  have finite : d.Finite := finite_empty.insert _ recordFinite
  obtain ⟨read, answers⟩ := parse_serialized.1 d finite
  exact ⟨finite, read, (answers c _ rfl rfl rfl).2, (parse_serialized.2 _ d read).2⟩

end Dataset

end Leaderboard
