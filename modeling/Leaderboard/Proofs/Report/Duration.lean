import Mathlib.Order.Bounds.Basic
import Leaderboard.Proofs.Json.NumberWriting
import Leaderboard.Proofs.Text.Split
import Leaderboard.Report.Figures

set_option autoImplicit false

namespace Leaderboard.Report

namespace TimeUnit

def ofLetter? : Char → Option TimeUnit
  | 's' => some second
  | 'm' => some minute
  | 'h' => some hour
  | 'd' => some day
  | _ => none

theorem ofLetter?_letter (u : TimeUnit) : ofLetter? u.letter = some u := by
  cases u <;> rfl

theorem seconds_pos (u : TimeUnit) : 0 < u.seconds := by
  cases u <;> decide

def radix : TimeUnit → Nat
  | hour => 24
  | _ => 60

end TimeUnit

def DurationPart.ofText? (cs : List Char) : Option DurationPart := do
  let unit ← TimeUnit.ofLetter? (← cs.getLast?)
  let count ← Decimal.natural? cs.dropLast
  return ⟨count, unit⟩

def readDuration? (text : String) : Option (List DurationPart) :=
  (Text.splitAll ' ' text.toList).mapM DurationPart.ofText?

def duration (parts : List DurationPart) : Nat :=
  (parts.map (fun p => p.count * p.unit.seconds)).sum

namespace DurationPart

variable (p : DurationPart)

theorem toList_text : p.text.toList = Nat.toDigits 10 p.count ++ [p.unit.letter] := by
  simp [text]

theorem ofText?_text : ofText? p.text.toList = some p := by
  simp [toList_text, ofText?, TimeUnit.ofLetter?_letter, Json.natural?_toDigits]

theorem not_blank_mem_text : ' ' ∉ p.text.toList := by
  have letter : ' ' ≠ p.unit.letter := by cases p.unit <;> decide
  have digits : ' ' ∉ Nat.toDigits 10 p.count := fun inside =>
    absurd ((Json.digits_toDigits p.count).digits ' ' inside) (by decide)
  simp [toList_text, letter, digits]

end DurationPart

theorem readDuration?_intercalate {parts : List DurationPart} (some : parts ≠ []) :
    readDuration? (" ".intercalate (parts.map DurationPart.text)) = Option.some parts := by
  have texts : (" ".intercalate (parts.map DurationPart.text)).toList =
      Text.joinWith ' ' (parts.map (fun p => p.text.toList)) := by
    rw [String.toList_intercalate, List.map_map, ← Text.intercalate_eq_joinWith]
    rfl
  have whole : ∀ part ∈ parts.map (fun p => p.text.toList), ' ' ∉ part := by
    rw [List.forall_mem_map]
    exact fun p _ => p.not_blank_mem_text
  have read : DurationPart.ofText? ∘ (fun p => p.text.toList) = Option.some :=
    funext DurationPart.ofText?_text
  have all : parts.mapM Option.some = Option.some parts := by
    simpa using List.mapM_pure (m := Option) (l := parts) (f := id)
  rw [readDuration?, texts, Text.splitAll_joinWith (by simpa using some) whole, List.mapM_map, read,
    all]

def smallerUnit (s : Nat) : TimeUnit :=
  if s < 3600 then .second else if s < 86400 then .minute else .hour

-- No more than two neighbouring units, the larger one only if there is any of it.
structure Shows (s : Nat) (front : List DurationPart) (small : DurationPart) : Prop where
  unit : small.unit = smallerUnit s
  below : small.count < small.unit.radix
  larger : front = [] ∨ ∃ large, front = [large] ∧ 1 ≤ large.count ∧
    large.unit.seconds = small.unit.radix * small.unit.seconds

theorem Shows.single {s : Nat} (short : s < 60) : Shows s [] ⟨s, .second⟩ where
  unit := by simp [smallerUnit, Nat.lt_trans short]
  below := short
  larger := .inl rfl

theorem Shows.pair {s : Nat} (large : TimeUnit) {small : TimeUnit} (unit : small = smallerUnit s)
    (neighbours : large.seconds = small.radix * small.seconds) (reached : large.seconds ≤ s) :
    Shows s [⟨s / large.seconds, large⟩] ⟨s % large.seconds / small.seconds, small⟩ where
  unit := unit
  below := by
    have rest : s % large.seconds < small.radix * small.seconds :=
      neighbours ▸ Nat.mod_lt s large.seconds_pos
    exact (Nat.div_lt_iff_lt_mul small.seconds_pos).2 rest
  larger := .inr ⟨_, rfl, Nat.div_pos reached large.seconds_pos, neighbours⟩

theorem durationParts_shows (s : Nat) :
    ∃ front small, durationParts s = front ++ [small] ∧ Shows s front small := by
  by_cases minute : s < 60
  · exact ⟨[], ⟨s, .second⟩, by simp [durationParts, minute], .single minute⟩
  by_cases hour : s < 3600
  · have unit : TimeUnit.second = smallerUnit s := by simp [smallerUnit, hour]
    have parts : durationParts s = [⟨s / 60, .minute⟩, ⟨s % 60 / 1, .second⟩] := by
      simp [durationParts, minute, hour]
    exact ⟨_, _, parts, .pair .minute unit (by decide) (Nat.le_of_not_lt minute)⟩
  by_cases day : s < 86400
  · have unit : TimeUnit.minute = smallerUnit s := by simp [smallerUnit, hour, day]
    have parts : durationParts s = [⟨s / 3600, .hour⟩, ⟨s % 3600 / 60, .minute⟩] := by
      simp [durationParts, minute, hour, day]
    exact ⟨_, _, parts, .pair .hour unit (by decide) (Nat.le_of_not_lt hour)⟩
  · have unit : TimeUnit.hour = smallerUnit s := by simp [smallerUnit, hour, day]
    have parts : durationParts s = [⟨s / 86400, .day⟩, ⟨s % 86400 / 3600, .hour⟩] := by
      simp [durationParts, minute, hour, day]
    exact ⟨_, _, parts, .pair .day unit (by decide) (Nat.le_of_not_lt day)⟩

theorem duration_durationParts (s : Nat) :
    duration (durationParts s) = s / (smallerUnit s).seconds * (smallerUnit s).seconds := by
  unfold durationParts smallerUnit
  split_ifs <;> simp [duration, TimeUnit.seconds] <;> omega

theorem isGreatest_floor (s : Nat) {unit : Nat} (pos : 0 < unit) :
    IsGreatest {m | unit ∣ m ∧ m ≤ s} (s / unit * unit) := by
  refine ⟨⟨Nat.dvd_mul_left unit _, Nat.div_mul_le_self s unit⟩, ?_⟩
  rintro m ⟨⟨k, rfl⟩, within⟩
  rw [Nat.mul_comm] at within ⊢
  exact Nat.mul_le_mul_right unit ((Nat.le_div_iff_mul_le pos).2 within)

-- Where a larger unit takes over, its first multiple is above all that was shown before.
theorem duration_mono {s t : Nat} (le : s ≤ t) :
    duration (durationParts s) ≤ duration (durationParts t) := by
  rw [duration_durationParts, duration_durationParts]
  unfold smallerUnit
  split_ifs <;> simp only [TimeUnit.seconds] <;> omega

theorem durationParts_ne_nil (s : Nat) : durationParts s ≠ [] := by
  obtain ⟨front, small, parts, -⟩ := durationParts_shows s
  simp [parts]

theorem readDuration?_durationText (s : Nat) :
    readDuration? (durationText s) = some (durationParts s) :=
  readDuration?_intercalate (durationParts_ne_nil s)

theorem duration_reads_back :
    (∀ s, ∃ front small, readDuration? (durationText s) = some (front ++ [small]) ∧
      Shows s front small ∧
      IsGreatest {m | small.unit.seconds ∣ m ∧ m ≤ s} (duration (front ++ [small]))) ∧
    ∀ s t, s ≤ t → ∃ shorter longer, readDuration? (durationText s) = some shorter ∧
      readDuration? (durationText t) = some longer ∧ duration shorter ≤ duration longer := by
  constructor
  · intro s
    obtain ⟨front, small, parts, shows⟩ := durationParts_shows s
    refine ⟨front, small, by rw [readDuration?_durationText, parts], shows, ?_⟩
    rw [← parts, duration_durationParts, shows.unit]
    exact isGreatest_floor s (smallerUnit s).seconds_pos
  · intro s t le
    exact ⟨_, _, readDuration?_durationText s, readDuration?_durationText t, duration_mono le⟩

-- A second before the day is full hours and minutes are shown, and then days and hours.
theorem duration_reads_back_around_a_day :
    86399 ≤ 86400 ∧ durationText 86399 = "23h 59m" ∧ durationText 86400 = "1d 0h" ∧
      ∃ shorter longer, readDuration? (durationText 86399) = some shorter ∧
        readDuration? (durationText 86400) = some longer ∧ duration shorter ≤ duration longer :=
  ⟨by decide, by decide, by decide, duration_reads_back.2 86399 86400 (by decide)⟩

end Leaderboard.Report
