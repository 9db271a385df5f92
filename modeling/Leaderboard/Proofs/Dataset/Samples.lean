import Leaderboard.Dataset.Record
import Leaderboard.Proofs.Data.SortedMap

set_option autoImplicit false

namespace Leaderboard

def Task.Names (key : String) (task : Task) : Prop :=
  Text.fold key = task.name ∨ task = .average ∧ Text.fold key = "avg"

theorem Task.ofName?_eq_some_iff (key : String) (task : Task) :
    ofName? key = some task ↔ Names key task := by
  unfold ofName? ofFolded? Names
  generalize Text.fold key = word
  by_cases short : word = "avg"
  · subst short
    cases task <;> decide
  · have other : (word == "avg") = false := by simpa using short
    simp only [other, short, and_false, or_false]
    constructor
    · intro found
      have same := List.find?_some found
      exact (beq_iff_eq.1 same).symm
    · rintro rfl
      cases task <;> rfl

theorem Task.ofName?_eq_none_iff (key : String) :
    ofName? key = none ↔ ∀ task, ¬ Names key task := by
  rw [Option.eq_none_iff_forall_ne_some]
  simp only [ne_eq, ofName?_eq_some_iff]

theorem Task.Names.unique {key : String} {a b : Task} (first : Names key a)
    (second : Names key b) : a = b := by
  rw [← ofName?_eq_some_iff] at first second
  rw [first] at second
  cases second
  rfl

namespace NodeRecord

def Taken (task : Task) (entry : String × Json) : Prop :=
  task.Names entry.1 ∧ entry.2.isNull = false

theorem readSamples_cons_taken {task : Task} {key : String} {value : Json}
    (taken : Taken task (key, value)) (rest : List (String × Json))
    (samples : SortedMap Task Sample) :
    readSamples ((key, value) :: rest) samples =
      match Sample.ofJson value with
      | .ok sample => readSamples rest (samples.insert task sample)
      | .error mismatch => .error (.sample key mismatch) := by
  have named := (Task.ofName?_eq_some_iff key task).2 taken.1
  have filled : value.isNull = false := taken.2
  cases of : Sample.ofJson value <;>
    simp only [readSamples, named, filled, of, Bool.false_eq_true, if_false]

theorem readSamples_cons_skipped {entry : String × Json}
    (skipped : ∀ task, ¬ Taken task entry) (rest : List (String × Json))
    (samples : SortedMap Task Sample) :
    readSamples (entry :: rest) samples = readSamples rest samples := by
  obtain ⟨key, value⟩ := entry
  rw [readSamples]
  cases named : Task.ofName? key with
  | none => rfl
  | some task =>
    cases null : value.isNull with
    | true => rfl
    | false =>
      have names := (Task.ofName?_eq_some_iff key task).1 named
      exact absurd ⟨names, null⟩ (skipped task)

inductive Stops : List (String × Json) → String → Mismatch → Prop
  | here {task : Task} {key : String} {value : Json} {mismatch : Mismatch}
    {rest : List (String × Json)} (taken : Taken task (key, value))
    (unreadable : Sample.ofJson value = .error mismatch) :
    Stops ((key, value) :: rest) key mismatch
  | later {entry : String × Json} {key : String} {mismatch : Mismatch}
    {rest : List (String × Json)}
    (reads : ∀ task, Taken task entry → ∃ sample, Sample.ofJson entry.2 = .ok sample)
    (stops : Stops rest key mismatch) : Stops (entry :: rest) key mismatch

inductive Last (task : Task) : List (String × Json) → String → Json → Prop
  | here {key : String} {value : Json} {rest : List (String × Json)}
    (taken : Taken task (key, value)) (alone : ∀ entry ∈ rest, ¬ Taken task entry) :
    Last task ((key, value) :: rest) key value
  | later {entry : String × Json} {key : String} {value : Json} {rest : List (String × Json)}
    (last : Last task rest key value) : Last task (entry :: rest) key value

theorem readSamples_eq_error_iff (entries : List (String × Json))
    (samples : SortedMap Task Sample) (error : RecordError) :
    readSamples entries samples = .error error ↔
      ∃ key mismatch, Stops entries key mismatch ∧ error = .sample key mismatch := by
  induction entries generalizing samples with
  | nil =>
    constructor
    · intro failed
      cases failed
    · rintro ⟨key, mismatch, stops, -⟩
      cases stops
  | cons entry rest ih =>
    by_cases present : ∃ task, Taken task entry
    · obtain ⟨task, taken⟩ := present
      obtain ⟨key, value⟩ := entry
      rw [readSamples_cons_taken taken]
      cases reads : Sample.ofJson value with
      | ok sample =>
        rw [ih]
        constructor
        · rintro ⟨other, mismatch, stops, same⟩
          exact ⟨other, mismatch, .later (fun _ _ => ⟨sample, reads⟩) stops, same⟩
        · rintro ⟨other, mismatch, stops, same⟩
          cases stops with
          | here _ unreadable =>
            rw [reads] at unreadable
            cases unreadable
          | later _ stops => exact ⟨other, mismatch, stops, same⟩
      | error mismatch =>
        constructor
        · intro failed
          cases failed
          exact ⟨key, mismatch, .here taken reads, rfl⟩
        · rintro ⟨other, reason, stops, rfl⟩
          cases stops with
          | here _ unreadable =>
            rw [reads] at unreadable
            cases unreadable
            rfl
          | later readable _ =>
            obtain ⟨sample, read⟩ := readable task taken
            rw [reads] at read
            cases read
    · have skipped : ∀ task, ¬ Taken task entry := fun task taken => present ⟨task, taken⟩
      rw [readSamples_cons_skipped skipped, ih]
      constructor
      · rintro ⟨key, mismatch, stops, same⟩
        exact ⟨key, mismatch, .later (fun task taken => absurd taken (skipped task)) stops, same⟩
      · rintro ⟨key, mismatch, stops, same⟩
        cases stops with
        | here taken => exact absurd taken (skipped _)
        | later _ stops => exact ⟨key, mismatch, stops, same⟩

theorem last_cons_of_not_taken {task : Task} {entry : String × Json} (passed : ¬ Taken task entry)
    (rest : List (String × Json)) (key : String) (value : Json) :
    Last task (entry :: rest) key value ↔ Last task rest key value := by
  constructor
  · intro last
    cases last with
    | here taken => exact absurd taken passed
    | later last => exact last
  · exact .later

theorem find?_readSamples {entries : List (String × Json)} {samples result : SortedMap Task Sample}
    (read : readSamples entries samples = .ok result) (task : Task) (sample : Sample) :
    result.find? task = some sample ↔
      (∃ key value, Last task entries key value ∧ Sample.ofJson value = .ok sample) ∨
        (∀ entry ∈ entries, ¬ Taken task entry) ∧ samples.find? task = some sample := by
  induction entries generalizing samples with
  | nil =>
    cases read
    constructor
    · intro found
      exact .inr ⟨fun _ inside => absurd inside List.not_mem_nil, found⟩
    · rintro (⟨key, value, last, -⟩ | ⟨-, found⟩)
      · cases last
      · exact found
  | cons entry rest ih =>
    by_cases present : ∃ other, Taken other entry
    · obtain ⟨other, taken⟩ := present
      obtain ⟨key, value⟩ := entry
      rw [readSamples_cons_taken taken] at read
      cases reads : Sample.ofJson value with
      | error mismatch =>
        rw [reads] at read
        cases read
      | ok found =>
        rw [reads] at read
        rw [ih read, SortedMap.find?_insert]
        -- The sample taken here stays unless a later entry is taken for the same task.
        by_cases same : task = other
        · subst same
          rw [if_pos Std.ReflCmp.compare_self, List.forall_mem_cons]
          constructor
          · rintro (⟨late, rival, last, rivalReads⟩ | ⟨alone, equal⟩)
            · exact .inl ⟨late, rival, .later last, rivalReads⟩
            · cases equal
              exact .inl ⟨key, value, .here taken alone, reads⟩
          · rintro (⟨late, rival, last, rivalReads⟩ | ⟨⟨passed, -⟩, -⟩)
            · cases last with
              | here _ alone =>
                have equal := Except.ok.inj (reads.symm.trans rivalReads)
                exact .inr ⟨alone, congrArg some equal⟩
              | later last => exact .inl ⟨late, rival, last, rivalReads⟩
            · exact absurd taken passed
        · have apart : compare task other ≠ .eq := fun equal =>
            same (Std.LawfulEqCmp.eq_of_compare equal)
          have passed : ¬ Taken task (key, value) := fun again => same (again.1.unique taken.1)
          simp only [if_neg apart, last_cons_of_not_taken passed, List.forall_mem_cons, passed,
            not_false_iff, true_and]
    · have skipped : ∀ other, ¬ Taken other entry := fun other taken => present ⟨other, taken⟩
      rw [readSamples_cons_skipped skipped] at read
      simp only [ih read, last_cons_of_not_taken (skipped task), List.forall_mem_cons,
        skipped task, not_false_iff, true_and]

theorem stops_iff {entries : List (String × Json)}
    (ascending : entries.Pairwise (fun a b => compare a.1 b.1 = .lt)) (key : String)
    (mismatch : Mismatch) :
    Stops entries key mismatch ↔
      ∃ task value, (key, value) ∈ entries ∧ Taken task (key, value) ∧
        Sample.ofJson value = .error mismatch ∧
        ∀ entry ∈ entries, compare entry.1 key = .lt → ∀ task, Taken task entry →
          ∃ sample, Sample.ofJson entry.2 = .ok sample := by
  constructor
  · intro stops
    induction stops with
    | @here task key value mismatch rest taken unreadable =>
      refine ⟨task, value, List.mem_cons_self, taken, unreadable, ?_⟩
      intro entry inside below
      rcases List.mem_cons.1 inside with rfl | later
      · exact absurd rfl (SortedMap.ne_of_below below)
      · have above := (List.pairwise_cons.1 ascending).1 entry later
        exact absurd rfl (SortedMap.ne_of_below (Std.TransCmp.lt_trans below above))
    | later reads _ ih =>
      obtain ⟨task, value, inside, taken, unreadable, first⟩ :=
        ih (List.pairwise_cons.1 ascending).2
      refine ⟨task, value, List.mem_cons_of_mem _ inside, taken, unreadable, ?_⟩
      intro entry present below
      rcases List.mem_cons.1 present with rfl | old
      · exact reads
      · exact first entry old below
  · rintro ⟨task, value, inside, taken, unreadable, first⟩
    induction entries with
    | nil => cases inside
    | cons entry rest ih =>
      rcases List.mem_cons.1 inside with rfl | old
      · exact .here taken unreadable
      · have later := List.pairwise_cons.1 ascending
        exact .later (first entry List.mem_cons_self (later.1 _ old))
          (ih later.2 old fun other present => first other (List.mem_cons_of_mem _ present))

theorem last_iff {entries : List (String × Json)}
    (ascending : entries.Pairwise (fun a b => compare a.1 b.1 = .lt)) (task : Task)
    (key : String) (value : Json) :
    Last task entries key value ↔
      (key, value) ∈ entries ∧ Taken task (key, value) ∧
        ∀ entry ∈ entries, Taken task entry → entry.1 = key ∨ compare entry.1 key = .lt := by
  constructor
  · intro last
    induction last with
    | here taken alone =>
      refine ⟨List.mem_cons_self, taken, ?_⟩
      intro entry inside rival
      rcases List.mem_cons.1 inside with rfl | later
      · exact .inl rfl
      · exact absurd rival (alone entry later)
    | later _ ih =>
      have later := List.pairwise_cons.1 ascending
      obtain ⟨inside, taken, greatest⟩ := ih later.2
      refine ⟨List.mem_cons_of_mem _ inside, taken, ?_⟩
      intro entry present rival
      rcases List.mem_cons.1 present with rfl | old
      · exact .inr (later.1 _ inside)
      · exact greatest entry old rival
  · rintro ⟨inside, taken, greatest⟩
    induction entries with
    | nil => cases inside
    | cons entry rest ih =>
      have later := List.pairwise_cons.1 ascending
      rcases List.mem_cons.1 inside with rfl | old
      · refine .here taken fun rival present rivalTaken => ?_
        -- What stands later has a greater key, and none of a greater key is taken.
        have above := later.1 rival present
        rcases greatest rival (List.mem_cons_of_mem _ present) rivalTaken with same | below
        · exact SortedMap.ne_of_below above same.symm
        · exact SortedMap.ne_of_below (Std.TransCmp.lt_trans above below) rfl
      · exact .later (ih later.2 old fun other present =>
          greatest other (List.mem_cons_of_mem _ present))

theorem exists_last {task : Task} {entries : List (String × Json)}
    (some_taken : ∃ entry ∈ entries, Taken task entry) :
    ∃ key value, Last task entries key value := by
  induction entries with
  | nil =>
    obtain ⟨_, inside, _⟩ := some_taken
    cases inside
  | cons entry rest ih =>
    by_cases later : ∃ other ∈ rest, Taken task other
    · obtain ⟨key, value, last⟩ := ih later
      exact ⟨key, value, .later last⟩
    · obtain ⟨other, inside, taken⟩ := some_taken
      rcases List.mem_cons.1 inside with rfl | old
      · exact ⟨_, _, .here taken fun rival present rivalTaken => later ⟨rival, present, rivalTaken⟩⟩
      · exact absurd ⟨other, old, taken⟩ later

theorem readSamples_reads_iff (entries : List (String × Json)) (samples : SortedMap Task Sample) :
    (∃ result, readSamples entries samples = .ok result) ↔
      ∀ entry ∈ entries, ∀ task, Taken task entry →
        ∃ sample, Sample.ofJson entry.2 = .ok sample := by
  induction entries generalizing samples with
  | nil => exact ⟨fun _ _ inside => absurd inside List.not_mem_nil, fun _ => ⟨samples, rfl⟩⟩
  | cons entry rest ih =>
    rw [List.forall_mem_cons]
    by_cases present : ∃ task, Taken task entry
    · obtain ⟨task, taken⟩ := present
      obtain ⟨key, value⟩ := entry
      rw [readSamples_cons_taken taken]
      cases reads : Sample.ofJson value with
      | ok sample =>
        rw [ih]
        exact ⟨fun later => ⟨fun _ _ => ⟨sample, rfl⟩, later⟩, fun both => both.2⟩
      | error mismatch =>
        constructor
        · rintro ⟨result, read⟩
          cases read
        · rintro ⟨first, -⟩
          obtain ⟨sample, read⟩ := first task taken
          cases read
    · have skipped : ∀ task, ¬ Taken task entry := fun task taken => present ⟨task, taken⟩
      rw [readSamples_cons_skipped skipped, ih]
      exact ⟨fun later => ⟨fun task taken => absurd taken (skipped task), later⟩,
        fun both => both.2⟩

end NodeRecord

end Leaderboard
