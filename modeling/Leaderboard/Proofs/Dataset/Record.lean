import Leaderboard.Proofs.Data.Outcome
import Leaderboard.Proofs.Dataset.Samples
import Leaderboard.Proofs.Text.Utf8

set_option autoImplicit false

namespace Leaderboard

namespace NodeRecord

def Given (part : Option Json) (value : Json) : Prop := part = some value ∧ value.isNull = false

def Fits {α : Type} (read : Json → Except Mismatch α) (part : Option Json) : Prop :=
  ∀ value, Given part value → ∃ result, read value = .ok result

inductive Tells {α : Type} (read : Json → Except Mismatch α) (part : Option Json) :
    Option α → Prop
  | absent (missing : ∀ value, ¬ Given part value) : Tells read part none
  | present {value : Json} {result : α} (given : Given part value)
    (reads : read value = .ok result) : Tells read part (some result)

variable (fields : SortedMap String Json)

-- Under `metrics` if that is there, otherwise among the keys that name no part of a record.
def sampleAt? (key : String) : Option Json :=
  match fields.find? "metrics" with
  | some (.object nested) => (Json.memberMap nested).find? key
  | some _ => none
  | none => if key = "qos" ∨ key = "metadata" ∨ key = "metrics" then none else fields.find? key

def MetricsFit : Prop :=
  ∀ value, Given (fields.find? "metrics") value → ∃ nested, value = .object nested

def SampleFor (task : Task) (key : String) (value : Json) : Prop :=
  Given (sampleAt? fields key) value ∧ task.Names key

def SamplesFit : Prop :=
  ∀ task key value, SampleFor fields task key value → ∃ sample, Sample.ofJson value = .ok sample

structure Valid : Prop where
  qos : Fits Qos.ofJson (fields.find? "qos")
  metadata : Fits NodeMetadata.ofJson (fields.find? "metadata")
  metrics : MetricsFit fields
  samples : SamplesFit fields

-- Of all keys for a task the one with the greatest bytes counts.
structure Counts (task : Task) (key : String) (value : Json) : Prop where
  given : SampleFor fields task key value
  greatest : ∀ other rival, SampleFor fields task other rival →
    other = key ∨ Text.encode other < Text.encode key

structure Describes (r : NodeRecord) : Prop where
  qos : Tells Qos.ofJson (fields.find? "qos") r.qos
  metadata : Tells NodeMetadata.ofJson (fields.find? "metadata") r.metadata
  samples : ∀ task sample, r.sample? task = some sample ↔
    ∃ key value, Counts fields task key value ∧ Sample.ofJson value = .ok sample
  absent : ∀ task, r.sample? task = none ↔ ∀ key value, ¬ SampleFor fields task key value

-- Quality of service comes first, then the metadata, then `metrics`, then the samples by their
-- keys.
inductive FirstProblem : RecordError → Prop
  | qos {value : Json} {mismatch : Mismatch} (given : Given (fields.find? "qos") value)
    (unreadable : Qos.ofJson value = .error mismatch) : FirstProblem (.qos mismatch)
  | metadata {value : Json} {mismatch : Mismatch} (qos : Fits Qos.ofJson (fields.find? "qos"))
    (given : Given (fields.find? "metadata") value)
    (unreadable : NodeMetadata.ofJson value = .error mismatch) : FirstProblem (.metadata mismatch)
  | metrics {value : Json} (qos : Fits Qos.ofJson (fields.find? "qos"))
    (metadata : Fits NodeMetadata.ofJson (fields.find? "metadata"))
    (given : Given (fields.find? "metrics") value) (other : ∀ nested, value ≠ .object nested) :
    FirstProblem (.metrics value)
  | sample {task : Task} {key : String} {value : Json} {mismatch : Mismatch}
    (qos : Fits Qos.ofJson (fields.find? "qos"))
    (metadata : Fits NodeMetadata.ofJson (fields.find? "metadata")) (metrics : MetricsFit fields)
    (given : SampleFor fields task key value)
    (unreadable : Sample.ofJson value = .error mismatch)
    (first : ∀ task other rival, SampleFor fields task other rival →
      Text.encode other < Text.encode key → ∃ sample, Sample.ofJson rival = .ok sample) :
    FirstProblem (.sample key mismatch)

variable {fields}

theorem not_given_of_isNull {part : Option Json} {value other : Json} (found : part = some value)
    (null : value.isNull = true) : ¬ Given part other := by
  rintro ⟨same, filled⟩
  rw [found] at same
  cases same
  rw [null] at filled
  cases filled

theorem Given.unique {part : Option Json} {a b : Json} (first : Given part a)
    (second : Given part b) : a = b := by
  have same := first.1.symm.trans second.1
  cases same
  rfl

section readPart

variable {α : Type} {read : Json → Except Mismatch α} {wrap : Mismatch → RecordError}

theorem readPart_given {part : Option Json} {value : Json} (given : Given part value) :
    readPart read wrap part =
      match read value with
      | .ok result => .ok (some result)
      | .error mismatch => .error (wrap mismatch) := by
  obtain ⟨rfl, filled⟩ := given
  cases value <;> first | rfl | cases filled

theorem readPart_missing {part : Option Json} (missing : ∀ value, ¬ Given part value) :
    readPart read wrap part = .ok none := by
  cases part with
  | none => rfl
  | some value =>
    cases null : value.isNull with
    | true =>
      cases value <;> first | rfl | cases null
    | false => exact absurd ⟨rfl, null⟩ (missing value)

theorem readPart_eq_ok_iff (part : Option Json) (result : Option α) :
    readPart read wrap part = .ok result ↔ Tells read part result := by
  by_cases present : ∃ value, Given part value
  · obtain ⟨value, given⟩ := present
    rw [readPart_given given]
    constructor
    · intro taken
      cases reads : read value with
      | ok a =>
        rw [reads] at taken
        cases taken
        exact .present given reads
      | error mismatch =>
        rw [reads] at taken
        cases taken
    · intro told
      cases told with
      | absent missing => exact absurd given (missing value)
      | present other reads => rw [given.unique other, reads]
  · have missing : ∀ value, ¬ Given part value := fun value given => present ⟨value, given⟩
    rw [readPart_missing missing]
    constructor
    · intro taken
      cases taken
      exact .absent missing
    · intro told
      cases told with
      | absent => rfl
      | present given => exact absurd given (missing _)

theorem readPart_eq_error_iff (part : Option Json) (error : RecordError) :
    readPart read wrap part = .error error ↔
      ∃ value mismatch, Given part value ∧ read value = .error mismatch ∧
        wrap mismatch = error := by
  by_cases present : ∃ value, Given part value
  · obtain ⟨value, given⟩ := present
    rw [readPart_given given]
    constructor
    · intro failed
      cases reads : read value with
      | ok a =>
        rw [reads] at failed
        cases failed
      | error mismatch =>
        rw [reads] at failed
        cases failed
        exact ⟨value, mismatch, given, reads, rfl⟩
    · rintro ⟨other, mismatch, again, reads, rfl⟩
      rw [given.unique again, reads]
  · have missing : ∀ value, ¬ Given part value := fun value given => present ⟨value, given⟩
    rw [readPart_missing missing]
    constructor
    · intro failed
      cases failed
    · rintro ⟨value, _, given, _⟩
      exact absurd given (missing value)

theorem fits_iff (part : Option Json) :
    Fits read part ↔ ∃ result, readPart read wrap part = .ok result := by
  constructor
  · intro fits
    cases taken : readPart read wrap part with
    | ok result => exact ⟨result, rfl⟩
    | error error =>
      obtain ⟨value, mismatch, given, unreadable, -⟩ := (readPart_eq_error_iff part error).1 taken
      obtain ⟨result, reads⟩ := fits value given
      rw [reads] at unreadable
      cases unreadable
  · rintro ⟨result, taken⟩ value given
    cases (readPart_eq_ok_iff part result).1 taken with
    | absent missing => exact absurd given (missing value)
    | present other reads => exact ⟨_, given.unique other ▸ reads⟩

end readPart

section ofFields

theorem isPartKey_iff (key : String) :
    isPartKey key = true ↔ key = "qos" ∨ key = "metadata" ∨ key = "metrics" := by
  simp [isPartKey, or_assoc]

theorem sampleSource_eq_error_iff (error : RecordError) :
    sampleSource fields = .error error ↔
      ∃ value, Given (fields.find? "metrics") value ∧ (∀ nested, value ≠ .object nested) ∧
        error = .metrics value := by
  unfold sampleSource
  cases found : fields.find? "metrics" with
  | none =>
    constructor
    · intro failed
      cases failed
    · rintro ⟨value, given, -⟩
      cases given.1
  | some value =>
    -- Only a value that is neither an object nor null is refused.
    have refused (other : ∀ nested, value ≠ .object nested) (filled : value.isNull = false)
        (failure : Except RecordError (List (String × Json)))
        (same : failure = .error (.metrics value)) :
        failure = .error error ↔ ∃ other, Given (some value) other ∧
          (∀ nested, other ≠ .object nested) ∧ error = .metrics other := by
      subst same
      constructor
      · intro failed
        cases failed
        exact ⟨value, ⟨rfl, filled⟩, other, rfl⟩
      · rintro ⟨again, ⟨same, -⟩, -, rfl⟩
        cases same
        rfl
    cases value with
    | null =>
      constructor
      · intro failed
        cases failed
      · rintro ⟨value, given, -⟩
        exact absurd given (not_given_of_isNull rfl rfl)
    | object nested =>
      constructor
      · intro failed
        cases failed
      · rintro ⟨value, ⟨same, -⟩, other, -⟩
        cases same
        exact absurd rfl (other nested)
    | boolean | integer | real | text | list => exact refused (fun _ => nofun) rfl _ rfl

theorem sampleSource_ok (metrics : MetricsFit fields) :
    ∃ m : SortedMap String Json, sampleSource fields = .ok m.entries ∧
      ∀ key, m.find? key = sampleAt? fields key := by
  cases read : sampleSource fields with
  | error error =>
    obtain ⟨value, given, other, -⟩ := (sampleSource_eq_error_iff error).1 read
    obtain ⟨nested, same⟩ := metrics value given
    exact absurd same (other nested)
  | ok source =>
    unfold sampleSource at read
    unfold sampleAt?
    split at read
    next nested found =>
      cases read
      exact ⟨Json.memberMap nested, rfl, fun key => by rw [found]⟩
    next found =>
      cases read
      exact ⟨.empty, rfl, fun key => by rw [found]; rfl⟩
    next => cases read
    next found =>
      cases read
      refine ⟨_, rfl, fun key => ?_⟩
      rw [SortedMap.find?_filter, found]
      simp only [← isPartKey_iff]
      cases isPartKey key <;> cases fields.find? key <;> rfl

theorem metricsFit_iff :
    MetricsFit fields ↔ ∃ source, sampleSource fields = .ok source := by
  constructor
  · intro metrics
    obtain ⟨m, read, -⟩ := sampleSource_ok metrics
    exact ⟨_, read⟩
  · rintro ⟨source, read⟩ value given
    by_contra other
    have refused := (sampleSource_eq_error_iff (.metrics value)).2
      ⟨value, given, not_exists.1 other, rfl⟩
    rw [read] at refused
    cases refused

variable {m : SortedMap String Json}

theorem sampleFor_iff (lookups : ∀ key, m.find? key = sampleAt? fields key) (task : Task)
    (key : String) (value : Json) :
    SampleFor fields task key value ↔ (key, value) ∈ m.entries ∧ Taken task (key, value) := by
  rw [SortedMap.mem_entries_iff, lookups]
  constructor
  · rintro ⟨⟨found, filled⟩, names⟩
    exact ⟨found, names, filled⟩
  · rintro ⟨found, names, filled⟩
    exact ⟨⟨found, filled⟩, names⟩

theorem counts_iff (lookups : ∀ key, m.find? key = sampleAt? fields key) (task : Task)
    (key : String) (value : Json) :
    Counts fields task key value ↔ Last task m.entries key value := by
  rw [last_iff m.ascending]
  constructor
  · rintro ⟨given, greatest⟩
    obtain ⟨inside, taken⟩ := (sampleFor_iff lookups task key value).1 given
    refine ⟨inside, taken, ?_⟩
    rintro ⟨other, rival⟩ present rivalTaken
    rw [Text.compare_eq_lt_iff]
    exact greatest other rival ((sampleFor_iff lookups task other rival).2 ⟨present, rivalTaken⟩)
  · rintro ⟨inside, taken, greatest⟩
    refine ⟨(sampleFor_iff lookups task key value).2 ⟨inside, taken⟩, ?_⟩
    intro other rival given
    obtain ⟨present, rivalTaken⟩ := (sampleFor_iff lookups task other rival).1 given
    have order := greatest (other, rival) present rivalTaken
    rwa [Text.compare_eq_lt_iff] at order

theorem samplesFit_iff (lookups : ∀ key, m.find? key = sampleAt? fields key) :
    SamplesFit fields ↔ ∃ samples, readSamples m.entries .empty = .ok samples := by
  rw [readSamples_reads_iff]
  constructor
  · rintro fit ⟨key, value⟩ inside task taken
    exact fit task key value ((sampleFor_iff lookups task key value).2 ⟨inside, taken⟩)
  · intro reads task key value given
    obtain ⟨inside, taken⟩ := (sampleFor_iff lookups task key value).1 given
    exact reads (key, value) inside task taken

theorem describes_samples_iff (lookups : ∀ key, m.find? key = sampleAt? fields key)
    {samples : SortedMap Task Sample} (read : readSamples m.entries .empty = .ok samples)
    (task : Task) (sample : Sample) :
    samples.find? task = some sample ↔
      ∃ key value, Counts fields task key value ∧ Sample.ofJson value = .ok sample := by
  rw [find?_readSamples read]
  simp only [SortedMap.find?_empty, reduceCtorEq, and_false, or_false, counts_iff lookups]

theorem describes_absent_iff (lookups : ∀ key, m.find? key = sampleAt? fields key)
    {samples : SortedMap Task Sample} (read : readSamples m.entries .empty = .ok samples)
    (task : Task) :
    samples.find? task = none ↔ ∀ key value, ¬ SampleFor fields task key value := by
  constructor
  · intro missing key value given
    obtain ⟨inside, taken⟩ := (sampleFor_iff lookups task key value).1 given
    obtain ⟨lastKey, rival, last⟩ := exists_last ⟨_, inside, taken⟩
    have counts := (counts_iff lookups task lastKey rival).2 last
    obtain ⟨sample, reads⟩ :=
      (samplesFit_iff lookups).2 ⟨samples, read⟩ task lastKey rival counts.given
    have found := (describes_samples_iff lookups read task sample).2 ⟨_, _, counts, reads⟩
    rw [missing] at found
    cases found
  · intro none
    rw [Option.eq_none_iff_forall_ne_some]
    intro sample found
    obtain ⟨key, value, counts, -⟩ := (describes_samples_iff lookups read task sample).1 found
    exact none key value counts.given

theorem ofFields_eq_ok_iff (r : NodeRecord) :
    ofFields fields = .ok r ↔ Valid fields ∧ Describes fields r := by
  simp only [ofFields, bind_eq_ok_iff]
  constructor
  · rintro ⟨qos, qosRead, metadata, metadataRead, source, sourceRead, samples, samplesRead, same⟩
    cases same
    have metrics := metricsFit_iff.2 ⟨source, sourceRead⟩
    obtain ⟨m, read, lookups⟩ := sampleSource_ok metrics
    rw [sourceRead] at read
    cases read
    constructor
    · exact
        { qos := (fits_iff _).2 ⟨qos, qosRead⟩
          metadata := (fits_iff _).2 ⟨metadata, metadataRead⟩
          metrics := metrics
          samples := (samplesFit_iff lookups).2 ⟨samples, samplesRead⟩ }
    · exact
        { qos := (readPart_eq_ok_iff _ _).1 qosRead
          metadata := (readPart_eq_ok_iff _ _).1 metadataRead
          samples := describes_samples_iff lookups samplesRead
          absent := describes_absent_iff lookups samplesRead }
  · rintro ⟨valid, describes⟩
    obtain ⟨m, sourceRead, lookups⟩ := sampleSource_ok valid.metrics
    obtain ⟨samples, samplesRead⟩ := (samplesFit_iff lookups).1 valid.samples
    refine ⟨r.qos, (readPart_eq_ok_iff _ _).2 describes.qos, r.metadata,
      (readPart_eq_ok_iff _ _).2 describes.metadata, m.entries, sourceRead, samples, samplesRead,
      ?_⟩
    -- The samples read answer every lookup as the record does.
    have same : samples = r.samples := by
      apply SortedMap.ext_find?
      intro task
      apply Option.ext
      intro sample
      rw [describes_samples_iff lookups samplesRead]
      exact (describes.samples task sample).symm
    rw [same]
    rfl

theorem ofFields_eq_error_iff (error : RecordError) :
    ofFields fields = .error error ↔ FirstProblem fields error := by
  simp only [ofFields, bind_eq_error_iff]
  constructor
  · rintro (failed | ⟨qos, qosRead, failed | ⟨metadata, metadataRead, failed |
      ⟨source, sourceRead, failed | ⟨samples, samplesRead, failed⟩⟩⟩⟩)
    · obtain ⟨value, mismatch, given, unreadable, rfl⟩ := (readPart_eq_error_iff _ _).1 failed
      exact .qos given unreadable
    · obtain ⟨value, mismatch, given, unreadable, rfl⟩ := (readPart_eq_error_iff _ _).1 failed
      exact .metadata ((fits_iff _).2 ⟨qos, qosRead⟩) given unreadable
    · obtain ⟨value, given, other, rfl⟩ := (sampleSource_eq_error_iff error).1 failed
      exact .metrics ((fits_iff _).2 ⟨qos, qosRead⟩) ((fits_iff _).2 ⟨metadata, metadataRead⟩)
        given other
    · have metrics := metricsFit_iff.2 ⟨source, sourceRead⟩
      obtain ⟨m, read, lookups⟩ := sampleSource_ok metrics
      rw [sourceRead] at read
      cases read
      obtain ⟨key, mismatch, stops, rfl⟩ := (readSamples_eq_error_iff _ _ _).1 failed
      obtain ⟨task, value, inside, taken, unreadable, first⟩ := (stops_iff m.ascending _ _).1 stops
      refine .sample ((fits_iff _).2 ⟨qos, qosRead⟩) ((fits_iff _).2 ⟨metadata, metadataRead⟩)
        metrics ((sampleFor_iff lookups task key value).2 ⟨inside, taken⟩) unreadable ?_
      intro other rivalKey rival given below
      obtain ⟨present, rivalTaken⟩ := (sampleFor_iff lookups other rivalKey rival).1 given
      exact first _ present ((Text.compare_eq_lt_iff _ _).2 below) other rivalTaken
    · cases failed
  · intro problem
    cases problem with
    | qos given unreadable =>
      exact .inl ((readPart_eq_error_iff _ _).2 ⟨_, _, given, unreadable, rfl⟩)
    | metadata qosFits given unreadable =>
      obtain ⟨qos, qosRead⟩ := (fits_iff _).1 qosFits
      exact .inr ⟨qos, qosRead, .inl ((readPart_eq_error_iff _ _).2 ⟨_, _, given, unreadable, rfl⟩)⟩
    | metrics qosFits metadataFits given other =>
      obtain ⟨qos, qosRead⟩ := (fits_iff _).1 qosFits
      obtain ⟨metadata, metadataRead⟩ := (fits_iff _).1 metadataFits
      exact .inr ⟨qos, qosRead, .inr ⟨metadata, metadataRead,
        .inl ((sampleSource_eq_error_iff _).2 ⟨_, given, other, rfl⟩)⟩⟩
    | sample qosFits metadataFits metrics given unreadable first =>
      obtain ⟨qos, qosRead⟩ := (fits_iff _).1 qosFits
      obtain ⟨metadata, metadataRead⟩ := (fits_iff _).1 metadataFits
      obtain ⟨m, sourceRead, lookups⟩ := sampleSource_ok metrics
      refine .inr ⟨qos, qosRead, .inr ⟨metadata, metadataRead, .inr ⟨m.entries, sourceRead,
        .inl ((readSamples_eq_error_iff _ _ _).2 ⟨_, _, (stops_iff m.ascending _ _).2 ?_, rfl⟩)⟩⟩⟩
      obtain ⟨inside, taken⟩ := (sampleFor_iff lookups _ _ _).1 given
      refine ⟨_, _, inside, taken, unreadable, ?_⟩
      rintro ⟨rivalKey, rival⟩ present below other rivalTaken
      exact first other rivalKey rival ((sampleFor_iff lookups _ _ _).2 ⟨present, rivalTaken⟩)
        ((Text.compare_eq_lt_iff _ _).1 below)

theorem FirstProblem.not_valid {error : RecordError} (problem : FirstProblem fields error) :
    ¬ Valid fields := by
  have clash {α : Type} {read : Json → Except Mismatch α} {part : Option Json} {value : Json}
      {mismatch : Mismatch} (fits : Fits read part) (given : Given part value)
      (unreadable : read value = .error mismatch) : False := by
    obtain ⟨result, reads⟩ := fits value given
    rw [reads] at unreadable
    cases unreadable
  intro valid
  cases problem with
  | qos given unreadable => exact clash valid.qos given unreadable
  | metadata _ given unreadable => exact clash valid.metadata given unreadable
  | metrics _ _ given other =>
    obtain ⟨nested, object⟩ := valid.metrics _ given
    exact other nested object
  | sample _ _ _ given unreadable _ =>
    obtain ⟨sample, reads⟩ := valid.samples _ _ _ given
    rw [reads] at unreadable
    cases unreadable

theorem valid_iff : Valid fields ↔ ∃ r, ofFields fields = .ok r := by
  constructor
  · intro valid
    cases read : ofFields fields with
    | ok r => exact ⟨r, rfl⟩
    | error error => exact absurd valid ((ofFields_eq_error_iff error).1 read).not_valid
  · rintro ⟨r, read⟩
    exact ((ofFields_eq_ok_iff r).1 read).1

end ofFields

-- Whether the samples stand under `metrics` or beside the parts makes no difference.
structure SameNamed (a b : SortedMap String Json) : Prop where
  qos : ∀ value, Given (a.find? "qos") value ↔ Given (b.find? "qos") value
  metadata : ∀ value, Given (a.find? "metadata") value ↔ Given (b.find? "metadata") value
  metrics : ∀ value, (∀ nested, value ≠ .object nested) →
    (Given (a.find? "metrics") value ↔ Given (b.find? "metrics") value)
  samples : ∀ task key value, SampleFor a task key value ↔ SampleFor b task key value

section sameParts

variable {α : Type} {read : Json → Except Mismatch α} {first second : Option Json}

theorem Fits.of_same (same : ∀ value, Given first value ↔ Given second value)
    (fits : Fits read first) : Fits read second :=
  fun value given => fits value ((same value).2 given)

theorem Tells.of_same (same : ∀ value, Given first value ↔ Given second value)
    {result : Option α} (told : Tells read first result) : Tells read second result := by
  cases told with
  | absent missing => exact .absent fun value given => missing value ((same value).2 given)
  | present given reads => exact .present ((same _).1 given) reads

end sameParts

namespace SameNamed

variable {a b : SortedMap String Json}

theorem symm (same : SameNamed a b) : SameNamed b a where
  qos := fun value => (same.qos value).symm
  metadata := fun value => (same.metadata value).symm
  metrics := fun value other => (same.metrics value other).symm
  samples := fun task key value => (same.samples task key value).symm

theorem metricsFit (same : SameNamed a b) (fit : MetricsFit a) : MetricsFit b := by
  intro value given
  by_contra other
  have other := not_exists.1 other
  obtain ⟨nested, object⟩ := fit value ((same.metrics value other).2 given)
  exact other nested object

theorem valid (same : SameNamed a b) (valid : Valid a) : Valid b where
  qos := valid.qos.of_same same.qos
  metadata := valid.metadata.of_same same.metadata
  metrics := same.metricsFit valid.metrics
  samples := fun task key value given =>
    valid.samples task key value ((same.samples task key value).2 given)

theorem counts (same : SameNamed a b) {task : Task} {key : String} {value : Json}
    (counts : Counts a task key value) : Counts b task key value where
  given := (same.samples task key value).1 counts.given
  greatest := fun other rival given =>
    counts.greatest other rival ((same.samples task other rival).2 given)

theorem describes (same : SameNamed a b) {r : NodeRecord} (describes : Describes a r) :
    Describes b r where
  qos := describes.qos.of_same same.qos
  metadata := describes.metadata.of_same same.metadata
  samples := by
    intro task sample
    rw [describes.samples]
    constructor
    · rintro ⟨key, value, counts, reads⟩
      exact ⟨key, value, same.counts counts, reads⟩
    · rintro ⟨key, value, counts, reads⟩
      exact ⟨key, value, same.symm.counts counts, reads⟩
  absent := by
    intro task
    simp only [describes.absent, same.samples]

theorem firstProblem (same : SameNamed a b) {error : RecordError} (problem : FirstProblem a error) :
    FirstProblem b error := by
  cases problem with
  | qos given unreadable => exact .qos ((same.qos _).1 given) unreadable
  | metadata qos given unreadable =>
    exact .metadata (qos.of_same same.qos) ((same.metadata _).1 given) unreadable
  | metrics qos metadata given other =>
    exact .metrics (qos.of_same same.qos) (metadata.of_same same.metadata)
      ((same.metrics _ other).1 given) other
  | sample qos metadata metrics given unreadable first =>
    refine .sample (qos.of_same same.qos) (metadata.of_same same.metadata)
      (same.metricsFit metrics) ((same.samples _ _ _).1 given) unreadable ?_
    intro task other rival rivalGiven
    exact first task other rival ((same.samples task other rival).2 rivalGiven)

theorem ofFields_eq (same : SameNamed a b) : ofFields a = ofFields b := by
  symm
  cases read : ofFields a with
  | ok r =>
    obtain ⟨valid, describes⟩ := (ofFields_eq_ok_iff r).1 read
    exact (ofFields_eq_ok_iff r).2 ⟨same.valid valid, same.describes describes⟩
  | error error =>
    have problem := (ofFields_eq_error_iff error).1 read
    exact (ofFields_eq_error_iff error).2 (same.firstProblem problem)

end SameNamed

theorem sameNamed_insert {key : String} (unnamed : ∀ task : Task, ¬ task.Names key)
    (other : isPartKey key = false) (value : Json) :
    SameNamed fields (fields.insert key value) := by
  have elsewhere {name : String} (apart : name ≠ key) :
      (fields.insert key value).find? name = fields.find? name := by
    rw [SortedMap.find?_insert, if_neg]
    exact fun equal => apart (Std.LawfulEqCmp.eq_of_compare equal)
  have part {name : String} (isPart : isPartKey name = true) :
      (fields.insert key value).find? name = fields.find? name := by
    apply elsewhere
    rintro rfl
    rw [isPart] at other
    cases other
  constructor
  case qos =>
    intro given
    rw [part rfl]
  case metadata =>
    intro given
    rw [part rfl]
  case metrics =>
    intro given _
    rw [part rfl]
  case samples =>
    intro task name given
    have nested := part (rfl : isPartKey "metrics" = true)
    have kept (names : task.Names name) :
        sampleAt? (fields.insert key value) name = sampleAt? fields name := by
      have apart : name ≠ key := fun same => unnamed task (same ▸ names)
      simp only [sampleAt?, nested, elsewhere apart]
    constructor
    · rintro ⟨found, names⟩
      exact ⟨(kept names).symm ▸ found, names⟩
    · rintro ⟨found, names⟩
      exact ⟨kept names ▸ found, names⟩

theorem ofJson_object_settled (members : List (String × Json)) :
    ((∃ r, ofJson (.object members) = .ok r) ↔ Valid (Json.memberMap members)) ∧
      (∀ r, ofJson (.object members) = .ok r → Describes (Json.memberMap members) r) ∧
      (∀ error, ofJson (.object members) = .error error ↔
        FirstProblem (Json.memberMap members) error) ∧
      ∀ others, SameNamed (Json.memberMap members) (Json.memberMap others) →
        ofJson (.object others) = ofJson (.object members) := by
  refine ⟨valid_iff.symm, ?_, ofFields_eq_error_iff, ?_⟩
  · intro r read
    exact ((ofFields_eq_ok_iff r).1 read).2
  · intro others same
    exact same.ofFields_eq.symm

-- Three spellings of a task, the last of them null, and a sample that cannot be read.
theorem ofJson_object_settled_spellings :
    let members : List (String × Json) := [("avg", .null),
      ("Average", .list [.integer 1, .integer 0]), ("AVG", .list [.integer 0, .integer 0])]
    let record : NodeRecord :=
      ⟨SortedMap.empty.insert .average ⟨Json.realOfInt 1, Json.realOfInt 0⟩, none, none⟩
    ofJson (.object members) = .ok record ∧ Valid (Json.memberMap members) ∧
      Describes (Json.memberMap members) record ∧
      FirstProblem (Json.memberMap (members ++ [("arc", .text "high")]))
        (.sample "arc" (.wrongType (.text "high") Sample.structName)) ∧
      ofJson (.object (members ++ [("note", .text "x")])) = .ok record := by
  intro members record
  obtain ⟨accepted, described, -, unchanged⟩ := ofJson_object_settled members
  obtain ⟨-, -, problem, -⟩ := ofJson_object_settled (members ++ [("arc", .text "high")])
  have read : ofJson (.object members) = .ok record := rfl
  have unnamed : ∀ task : Task, ¬ task.Names "note" := (Task.ofName?_eq_none_iff "note").1 rfl
  have same : SameNamed (Json.memberMap members)
      (Json.memberMap (members ++ [("note", .text "x")])) :=
    sameNamed_insert unnamed rfl (.text "x")
  exact ⟨read, accepted.1 ⟨record, read⟩, described record read, (problem _).1 rfl,
    (unchanged _ same).trans read⟩

end NodeRecord

end Leaderboard
