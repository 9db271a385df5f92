import Leaderboard.Proofs.Yaml.TwoLines

set_option autoImplicit false

namespace Leaderboard.Yaml

section Parts

theorem unifyBreaks_ended_append (front more : List Char) :
    unifyBreaks (front ++ '\n' :: more) = unifyBreaks (front ++ ['\n']) ++ unifyBreaks more := by
  fun_induction unifyBreaks front with
  | case1 rest ih => simpa [unifyBreaks] using ih
  | case2 rest other ih =>
    cases rest with
    | nil => simp [unifyBreaks]
    | cons c rest =>
      have apart : c ≠ '\n' := fun same => other rest (same ▸ rfl)
      simpa [unifyBreaks_return apart] using ih
  | case3 c rest _ other ih =>
    have apart : c ≠ '\r' := fun same => other same
    simpa [unifyBreaks_cons apart] using ih
  | case4 => simp [unifyBreaks]

theorem linesOf_append {part : List Char} (ended : part.getLast? = some '\n') (more : List Char) :
    linesOf (part ++ more) = linesOf part ++ linesOf more := by
  obtain ⟨front, rfl⟩ := List.getLast?_eq_some_iff.1 ended
  obtain ⟨unified, same⟩ := exists_ended front
  have whole : unifyBreaks (front ++ ['\n'] ++ more) = unified ++ '\n' :: unifyBreaks more := by
    rw [List.append_assoc, List.singleton_append, unifyBreaks_ended_append, same,
      List.append_assoc, List.singleton_append]
  have last : Text.splitAll '\n' (unified ++ ['\n']) = Text.splitAll '\n' unified ++ [[]] :=
    Text.splitAll_append_sep '\n' unified []
  have some : Text.splitAll '\n' (unifyBreaks more) ≠ [] := Text.splitAll_ne_nil _ _
  rw [linesOf, linesOf, linesOf, whole, same, last, Text.splitAll_append_sep,
    List.getLast?_append_of_ne_nil _ some]
  split
  · simp [List.dropLast_append_of_ne_nil some]
  · simp

theorem linesOf_unbroken_append {front : Line} (unbroken : Unbroken front) {cs : List Char}
    {first : Line} {rest : List Line} (lines : linesOf cs = first :: rest) :
    linesOf (front ++ cs) = (front ++ first) :: rest := by
  have apart : '\n' ∉ front := fun inside => (unbroken _ inside).1 rfl
  obtain ⟨head, tail, cut⟩ :=
    List.exists_cons_of_ne_nil (Text.splitAll_ne_nil '\n' (unifyBreaks cs))
  have joined := Text.splitAll_append_of_not_mem apart cut
  rw [linesOf, cut] at lines
  rw [linesOf, unifyBreaks_append unbroken, joined]
  cases tail with
  | nil =>
    by_cases bare : head = []
    next =>
      subst bare
      cases lines
    next =>
      rw [List.getLast?_singleton, if_neg (by simp [bare])] at lines ⊢
      cases lines
      rfl
  | cons second more =>
    rw [List.getLast?_cons_cons] at lines ⊢
    split at lines
    next blank =>
      cases lines
      rw [if_pos blank]
      rfl
    next busy =>
      cases lines
      rw [if_neg busy]

end Parts

section Keys

def KeyLine (column : Nat) (line : Line) : Prop :=
  ∃ c rest, line = List.replicate column ' ' ++ c :: rest ∧ c.isAlpha = true

variable {column : Nat} {line : Line}

theorem takeWhile_spaces {c : Char} (other : c ≠ ' ') (rest : Line) :
    (List.replicate column ' ' ++ c :: rest).takeWhile (· == ' ') = List.replicate column ' ' := by
  rw [List.takeWhile_append_of_pos fun d inside => by simp [List.eq_of_mem_replicate inside]]
  simp [other]

theorem skipGap_spaces (n : Nat) {c : Char} (visible : isGap c = false) (rest : Line) :
    skipGap (List.replicate n ' ' ++ c :: rest) = c :: rest := by
  unfold skipGap
  rw [List.dropWhile_append_of_pos fun d inside => by simp [isGap, List.eq_of_mem_replicate inside]]
  simp [visible]

theorem KeyLine.indentOf_eq (keyed : KeyLine column line) : indentOf line = column := by
  obtain ⟨c, rest, rfl, letter⟩ := keyed
  rw [indentOf, takeWhile_spaces (ne_of_letter letter (by decide)), List.length_replicate]

theorem KeyLine.isIdle_eq (keyed : KeyLine column line) : isIdle line = false := by
  obtain ⟨c, rest, rfl, letter⟩ := keyed
  rw [isIdle, skipGap_spaces _ (isGap_of_letter letter)]
  simp [ne_of_letter letter (d := '#') (by decide)]

theorem KeyLine.isMarker_eq (keyed : KeyLine column line) : isMarker line = false := by
  obtain ⟨c, rest, rfl, letter⟩ := keyed
  cases column with
  | zero => exact isMarker_of_letter letter rest
  | succ column => simp [isMarker, List.replicate_succ]

theorem KeyLine.isEmptyLine_eq (keyed : KeyLine column line) : isEmptyLine line = false := by
  obtain ⟨c, rest, rfl, letter⟩ := keyed
  simp [isEmptyLine, isGap_of_letter letter]

theorem KeyLine.nextLine?_eq (keyed : KeyLine column line) (below : List Line) :
    nextLine? (line :: below) = some ⟨column, line.drop column, below⟩ := by
  simp [nextLine?, skipIdle, keyed.isIdle_eq, keyed.isMarker_eq, keyed.indentOf_eq]

theorem KeyLine.contentStart_eq (keyed : KeyLine 0 line) (below : List Line) :
    contentStart (line :: below) = (false, ⟨[], line :: below⟩) := by
  obtain ⟨c, rest, rfl, letter⟩ := keyed
  exact contentStart_of_letter letter rest below

inductive KeysBefore (limit : Nat) : List Line → Prop
  | nil : KeysBefore limit []
  | cons {column : Nat} {line : Line} (within : column < limit) (keyed : KeyLine column line)
      (more : List Line) : KeysBefore limit (line :: more)

variable {limit : Nat} {below : List Line}

theorem KeysBefore.mono {wider : Nat} (bound : limit ≤ wider) (ends : KeysBefore limit below) :
    KeysBefore wider below := by
  cases ends with
  | nil => exact .nil
  | cons within keyed more => exact .cons (Nat.lt_of_lt_of_le within bound) keyed more

theorem KeysBefore.plainBelow_eq (ends : KeysBefore limit below) :
    plainBelow limit below = some ([], below) := by
  cases ends with
  | nil => rfl
  | cons within keyed more => simp [plainBelow, keyed.isEmptyLine_eq, keyed.indentOf_eq, within]

end Keys

end Leaderboard.Yaml
