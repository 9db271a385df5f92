import Mathlib.Data.List.Basic
import Leaderboard.Text.Split

set_option autoImplicit false

namespace Leaderboard.Text

def IsSegment (sep : Char) (part cs : List Char) : Prop :=
  ∃ before after, cs = before ++ part ++ after ∧ sep ∉ part ∧
    (before = [] ∨ ∃ front, before = front ++ [sep]) ∧
    (after = [] ∨ ∃ back, after = sep :: back)

variable {sep : Char}

theorem splitAll_of_not_mem {cs : List Char} (whole : sep ∉ cs) : splitAll sep cs = [cs] := by
  induction cs with
  | nil => rfl
  | cons c rest ih =>
    rw [List.mem_cons, not_or] at whole
    have apart : c ≠ sep := fun same => whole.1 same.symm
    simp [splitAll, apart, ih whole.2]

theorem length_splitAll (sep : Char) (cs : List Char) :
    (splitAll sep cs).length = cs.count sep + 1 := by
  induction cs with
  | nil => rfl
  | cons c rest ih =>
    obtain ⟨part, parts, cut⟩ := List.exists_cons_of_ne_nil (splitAll_ne_nil sep rest)
    by_cases same : c = sep
    · simp [splitAll, same, ih]
    · rw [cut, List.length_cons] at ih
      simp [splitAll, same, cut, Nat.succ.inj ih]

theorem splitAll_append_sep (sep : Char) (first second : List Char) :
    splitAll sep (first ++ sep :: second) = splitAll sep first ++ splitAll sep second := by
  induction first with
  | nil => simp [splitAll]
  | cons c rest ih =>
    by_cases same : c = sep
    · simp [splitAll, same, ih]
    · obtain ⟨part, parts, cut⟩ := List.exists_cons_of_ne_nil (splitAll_ne_nil sep rest)
      simp [splitAll, same, ih, cut]

theorem splitAll_append_of_not_mem {part rest first : List Char} {parts : List (List Char)}
    (whole : sep ∉ part) (cut : splitAll sep rest = first :: parts) :
    splitAll sep (part ++ rest) = (part ++ first) :: parts := by
  induction part with
  | nil => exact cut
  | cons c part ih =>
    rw [List.mem_cons, not_or] at whole
    have apart : c ≠ sep := fun same => whole.1 same.symm
    simp [splitAll, apart, ih whole.2]

theorem flatMap_splitAll_of_not_mem {parts : List (List Char)}
    (whole : ∀ part ∈ parts, sep ∉ part) :
    parts.flatMap (splitAll sep) = parts := by
  induction parts with
  | nil => rfl
  | cons part more ih =>
    rw [List.forall_mem_cons] at whole
    rw [List.flatMap_cons, splitAll_of_not_mem whole.1, ih whole.2, List.singleton_append]

-- Every part is followed by a separator, and may hold others.
theorem splitAll_flatMap_append (sep : Char) (parts : List (List Char)) (rest : List Char) :
    splitAll sep (parts.flatMap (· ++ [sep]) ++ rest) =
      parts.flatMap (splitAll sep) ++ splitAll sep rest := by
  induction parts with
  | nil => rfl
  | cons part more ih =>
    rw [List.flatMap_cons, List.append_assoc, List.append_assoc, List.singleton_append,
      splitAll_append_sep, ih, List.flatMap_cons, List.append_assoc]

theorem mem_joinWith {c : Char} {parts : List (List Char)} (inside : c ∈ joinWith sep parts) :
    c = sep ∨ ∃ part ∈ parts, c ∈ part := by
  induction parts with
  | nil => cases inside
  | cons part more ih =>
    cases more with
    | nil => exact .inr ⟨part, List.mem_cons_self, inside⟩
    | cons next more =>
      rw [joinWith, List.mem_append, List.mem_cons] at inside
      rcases inside with here | between | later
      · exact .inr ⟨part, List.mem_cons_self, here⟩
      · exact .inl between
      · refine (ih later).imp_right ?_
        rintro ⟨other, listed, inside⟩
        exact ⟨other, List.mem_cons_of_mem _ listed, inside⟩

theorem intercalate_eq_joinWith (sep : Char) (parts : List (List Char)) :
    [sep].intercalate parts = joinWith sep parts := by
  induction parts with
  | nil => rfl
  | cons part more ih =>
    cases more with
    | nil => exact List.intercalate_singleton
    | cons next more =>
      rw [List.intercalate_cons_cons, ih, List.append_assoc, List.singleton_append, joinWith]

theorem splitAll_joinWith {parts : List (List Char)} (some : parts ≠ [])
    (whole : ∀ part ∈ parts, sep ∉ part) : splitAll sep (joinWith sep parts) = parts := by
  induction parts with
  | nil => exact absurd rfl some
  | cons part more ih =>
    rw [List.forall_mem_cons] at whole
    cases more with
    | nil => exact splitAll_of_not_mem whole.1
    | cons next more =>
      rw [joinWith, splitAll_append_sep, splitAll_of_not_mem whole.1,
        ih (List.cons_ne_nil next more) whole.2]
      rfl

theorem not_mem_of_mem_splitAll {part cs : List Char} (inside : part ∈ splitAll sep cs) :
    sep ∉ part := by
  induction cs generalizing part with
  | nil =>
    rw [List.mem_singleton.1 inside]
    exact List.not_mem_nil
  | cons c rest ih =>
    obtain ⟨first, parts, cut⟩ := List.exists_cons_of_ne_nil (splitAll_ne_nil sep rest)
    rw [cut, List.forall_mem_cons] at ih
    by_cases same : c = sep
    · simp only [splitAll, same, beq_self_eq_true, if_true, cut, List.mem_cons] at inside
      rcases inside with rfl | rfl | later
      · exact List.not_mem_nil
      · exact ih.1
      · exact ih.2 part later
    · simp only [splitAll, same, beq_iff_eq, if_false, cut, List.mem_cons] at inside
      rcases inside with rfl | later
      · exact List.not_mem_cons_of_ne_of_not_mem (Ne.symm same) ih.1
      · exact ih.2 part later

theorem isSegment_joinWith {parts : List (List Char)} {part : List Char} (inside : part ∈ parts)
    (whole : sep ∉ part) : IsSegment sep part (joinWith sep parts) := by
  induction parts with
  | nil => cases inside
  | cons first more ih =>
    cases more with
    | nil =>
      rw [List.mem_singleton.1 inside] at whole ⊢
      exact ⟨[], [], by simp [joinWith], whole, .inl rfl, .inl rfl⟩
    | cons next more =>
      rcases List.mem_cons.1 inside with rfl | later
      · exact ⟨[], _, rfl, whole, .inl rfl, .inr ⟨_, rfl⟩⟩
      · obtain ⟨before, after, cut, -, front, back⟩ := ih later
        refine ⟨first ++ sep :: before, after, by simp [joinWith, cut], whole, .inr ?_, back⟩
        rcases front with rfl | ⟨front, rfl⟩
        · exact ⟨first, rfl⟩
        · exact ⟨first ++ sep :: front, by simp⟩

theorem mem_splitAll_iff {part cs : List Char} :
    part ∈ splitAll sep cs ↔ IsSegment sep part cs := by
  constructor
  · intro inside
    rw [← joinWith_splitAll sep cs]
    exact isSegment_joinWith inside (not_mem_of_mem_splitAll inside)
  · rintro ⟨before, after, rfl, whole, rfl | ⟨front, rfl⟩, rfl | ⟨back, rfl⟩⟩
    all_goals simp [splitAll_append_sep, splitAll_of_not_mem whole]

theorem subset_of_mem_splitAll {part cs : List Char} (inside : part ∈ splitAll sep cs) :
    part ⊆ cs := by
  obtain ⟨before, after, rfl, -⟩ := mem_splitAll_iff.1 inside
  rw [List.append_assoc]
  exact fun c within => List.mem_append_right _ (List.mem_append_left _ within)

theorem splitOnce?_append {before : List Char} (whole : sep ∉ before) (after : List Char) :
    splitOnce? sep (before ++ sep :: after) = some (before, after) := by
  induction before with
  | nil => simp [splitOnce?]
  | cons c rest ih =>
    rw [List.mem_cons, not_or] at whole
    have apart : c ≠ sep := fun same => whole.1 same.symm
    simp [splitOnce?, apart, ih whole.2]

theorem splitOnce?_eq_some_iff {cs before after : List Char} :
    splitOnce? sep cs = some (before, after) ↔ cs = before ++ sep :: after ∧ sep ∉ before := by
  constructor
  · intro cut
    induction cs generalizing before with
    | nil => cases cut
    | cons c rest ih =>
      by_cases same : c = sep
      · simp only [splitOnce?, same, beq_self_eq_true, if_true, Option.some.injEq,
          Prod.mk.injEq] at cut
        obtain ⟨rfl, rfl⟩ := cut
        exact ⟨by rw [same]; rfl, List.not_mem_nil⟩
      · simp only [splitOnce?, same, beq_iff_eq, if_false] at cut
        obtain ⟨⟨front, back⟩, later, pair⟩ := Option.map_eq_some_iff.1 cut
        cases pair
        obtain ⟨joined, whole⟩ := ih later
        exact ⟨by rw [joined]; rfl, List.not_mem_cons_of_ne_of_not_mem (Ne.symm same) whole⟩
  · rintro ⟨rfl, whole⟩
    exact splitOnce?_append whole after

end Leaderboard.Text
