import Leaderboard.Proofs.Text.Split
import Leaderboard.Proofs.Yaml.Entry

set_option autoImplicit false

namespace Leaderboard.Yaml

open Text (Unpadded)

section Breaks

theorem unifyBreaks_cons {c : Char} (other : c ≠ '\r') (rest : List Char) :
    unifyBreaks (c :: rest) = c :: unifyBreaks rest := by
  simp [unifyBreaks, other]

theorem unifyBreaks_return {c : Char} (other : c ≠ '\n') (rest : List Char) :
    unifyBreaks ('\r' :: c :: rest) = '\n' :: unifyBreaks (c :: rest) := by
  rw [unifyBreaks]
  intro _ same
  exact other (List.cons.inj same).1

theorem unifyBreaks_append {line : Line} (unbroken : Unbroken line) (more : List Char) :
    unifyBreaks (line ++ more) = line ++ unifyBreaks more := by
  induction line with
  | nil => rfl
  | cons c rest ih =>
    rw [Unbroken, List.forall_mem_cons] at unbroken
    rw [List.cons_append, unifyBreaks_cons unbroken.1.2, ih unbroken.2, List.cons_append]

inductive Ending : List Char → Prop
  | feed : Ending ['\n']
  | both : Ending ['\r', '\n']

theorem Ending.unified {ending : List Char} (ends : Ending ending) :
    unifyBreaks ending = ['\n'] := by
  cases ends <;> rfl

theorem linesOf_two {first last : Line} {ending : List Char} (whole : Unbroken first)
    (unbroken : Unbroken last) (held : last ≠ [])
    (ends : ending = [] ∨ Ending ending) :
    linesOf (first ++ '\n' :: (last ++ ending)) = [first, last] := by
  have apart {line : Line} (unbroken : Unbroken line) : Text.splitAll '\n' line = [line] :=
    Text.splitAll_of_not_mem fun inside => (unbroken _ inside).1 rfl
  have cut : unifyBreaks (first ++ '\n' :: (last ++ ending)) =
      first ++ '\n' :: (last ++ unifyBreaks ending) := by
    rw [unifyBreaks_append whole, unifyBreaks_cons (by decide), unifyBreaks_append unbroken]
  rw [linesOf, cut, Text.splitAll_append_sep, apart whole]
  rcases ends with rfl | ends
  · rw [unifyBreaks, List.append_nil, apart unbroken]
    simp [held]
  · rw [ends.unified, Text.splitAll_append_sep, apart unbroken]
    simp [Text.splitAll]

theorem exists_ended (cs : List Char) : ∃ front, unifyBreaks (cs ++ ['\n']) = front ++ ['\n'] := by
  fun_induction unifyBreaks cs with
  | case1 rest ih =>
    obtain ⟨front, same⟩ := ih
    exact ⟨'\n' :: front, congrArg ('\n' :: ·) same⟩
  | case2 rest other ih =>
    obtain ⟨front, same⟩ := ih
    cases rest with
    | nil => exact ⟨[], rfl⟩
    | cons c rest =>
      have apart : c ≠ '\n' := fun same => other rest (same ▸ rfl)
      exact ⟨'\n' :: front, (unifyBreaks_return apart _).trans (congrArg ('\n' :: ·) same)⟩
  | case3 c rest _ other ih =>
    obtain ⟨front, same⟩ := ih
    exact ⟨c :: front, by rw [List.cons_append, unifyBreaks_cons other, same]; rfl⟩
  | case4 => exact ⟨[], rfl⟩

theorem length_linesOf (cs : List Char) :
    (linesOf (cs ++ ['\n'])).length = (unifyBreaks (cs ++ ['\n'])).count '\n' := by
  obtain ⟨front, same⟩ := exists_ended cs
  have last : Text.splitAll '\n' (front ++ ['\n']) = Text.splitAll '\n' front ++ [[]] :=
    Text.splitAll_append_sep '\n' front []
  rw [linesOf, same, last]
  simp [Text.length_splitAll]

theorem exists_bare {cs : List Char} (single : (unifyBreaks (cs ++ ['\n'])).count '\n' = 1) :
    ∃ bare ending, cs ++ ['\n'] = bare ++ ending ∧ Unbroken bare ∧ Ending ending := by
  -- Behind a break stands another one, since the text ends with one.
  have twice (rest : List Char) :
      (('\n' :: unifyBreaks (rest ++ ['\n'])).count '\n') ≠ 1 := by
    obtain ⟨front, same⟩ := exists_ended rest
    simp [same]
  induction cs with
  | nil => exact ⟨[], ['\n'], rfl, by decide, .feed⟩
  | cons c rest ih =>
    by_cases feed : c = '\n'
    · subst feed
      exact absurd single (twice rest)
    by_cases back : c = '\r'
    · subst back
      cases rest with
      | nil => exact ⟨[], ['\r', '\n'], rfl, by decide, .both⟩
      | cons d rest =>
        by_cases feed : d = '\n'
        · subst feed
          exact absurd single (twice rest)
        · rw [List.cons_append, List.cons_append, unifyBreaks_return feed] at single
          exact absurd single (twice (d :: rest))
    · rw [List.cons_append, unifyBreaks_cons back, List.count_cons_of_ne feed] at single
      obtain ⟨bare, ending, same, unbroken, ends⟩ := ih single
      refine ⟨c :: bare, ending, congrArg (c :: ·) same, ?_, ends⟩
      exact List.forall_mem_cons.2 ⟨⟨feed, back⟩, unbroken⟩

theorem takeWhile_goesOn {front : List Char} (goesOn : '\x00' ∉ front) (rest : List Char) :
    (front ++ rest).takeWhile (· != '\x00') = front ++ rest.takeWhile (· != '\x00') := by
  apply List.takeWhile_append_of_pos
  intro c inside
  exact bne_iff_ne.2 fun same => goesOn (same ▸ inside)

theorem exists_takeWhile_ended (bare : Line) {ending : List Char} (ends : Ending ending) :
    ∃ rest, (bare ++ ending).takeWhile (· != '\x00') = bare.takeWhile (· != '\x00') ++ rest ∧
      (rest = [] ∨ Ending rest) := by
  rw [List.takeWhile_append]
  split
  next whole =>
    have kept : ending.takeWhile (· != '\x00') = ending := by cases ends <;> decide
    rw [(List.takeWhile_prefix _).eq_of_length whole, kept]
    exact ⟨ending, rfl, .inr ends⟩
  next => exact ⟨[], (List.append_nil _).symm, .inl rfl⟩

end Breaks

section Letters

variable {c : Char} (letter : c.isAlpha = true)
include letter

theorem ne_of_letter {d : Char} (other : d.isAlpha = false) : c ≠ d := by
  rintro rfl
  cases letter.symm.trans other

theorem isGap_of_letter : isGap c = false := by
  simp [isGap, ne_of_letter letter (d := ' ') (by decide),
    ne_of_letter letter (d := '\t') (by decide)]

theorem isIdle_of_letter (rest : Line) : isIdle (c :: rest) = false := by
  simp [isIdle, skipGap, isGap_of_letter letter, ne_of_letter letter (d := '#') (by decide)]

theorem isMarker_of_letter (rest : Line) : isMarker (c :: rest) = false := by
  simp [isMarker, ne_of_letter letter (d := '-') (by decide),
    ne_of_letter letter (d := '.') (by decide)]

theorem isDash_of_letter (rest : Line) : isDash (c :: rest) = false := by
  unfold isDash
  split
  next same =>
    cases same
    exact absurd letter (by decide)
  next => rfl

theorem indentOf_of_letter (rest : Line) : indentOf (c :: rest) = 0 := by
  simp [indentOf, ne_of_letter letter (d := ' ') (by decide)]

theorem nextLine?_of_letter (rest : Line) (below : List Line) :
    nextLine? ((c :: rest) :: below) = some ⟨0, c :: rest, below⟩ := by
  simp [nextLine?, skipIdle, isIdle_of_letter letter, isMarker_of_letter letter,
    indentOf_of_letter letter]

theorem plainBelow_of_letter (least : Nat) (rest : Line) (below : List Line) :
    plainBelow (least + 1) ((c :: rest) :: below) = some ([], (c :: rest) :: below) := by
  simp [plainBelow, isEmptyLine, isGap_of_letter letter, indentOf_of_letter letter]

theorem contentStart_of_letter (rest : Line) (below : List Line) :
    contentStart ((c :: rest) :: below) = (false, ⟨[], (c :: rest) :: below⟩) := by
  simp [contentStart, skipIdle, isIdle_of_letter letter, isDirective,
    ne_of_letter letter (d := '%') (by decide), ne_of_letter letter (d := '-') (by decide)]

theorem readNode_of_letter {fuel column least : Nat} {rest : Line} {below : List Line}
    (keyed : hasKey (c :: rest) = true) :
    readNode (fuel + 1) column least ⟨c :: rest, below⟩ =
      match readEntries fuel column ⟨c :: rest, below⟩ with
      | some (members, below) => (objectOf? members).map (fun value => (value, below))
      | none => none := by
  have tab : ¬ ((c :: rest).head? == some '\t') = true := by
    simpa using ne_of_letter letter (by decide)
  have dash : ¬ isDash (c :: rest) = true := by
    rw [isDash_of_letter letter]
    decide
  rw [readNode, if_neg tab, if_neg dash]
  exact if_pos keyed

end Letters

structure IsKey (name : String) : Prop where
  stands : StandsPlain name
  letter : ∃ c rest, name.toList = c :: rest ∧ c.isAlpha = true

def entryLine (name : String) (value : Line) : Line := name.toList ++ ':' :: ' ' :: value

theorem StandsPlain.unbroken_entryLine {name : String} (stands : StandsPlain name) {value : Line}
    (unbroken : Unbroken value) : Unbroken (entryLine name value) := by
  intro c inside
  rw [entryLine, List.mem_append, List.mem_cons, List.mem_cons] at inside
  rcases inside with named | rfl | rfl | valued
  · exact stands.unbroken c named
  · decide
  · decide
  · exact unbroken c valued

theorem readEntries_head {fuel column : Nat} {name : String} {value : Line}
    {below rest : List Line} {members : List (String × Json)} (stands : StandsPlain name)
    (read : readEntries (fuel + 1) column ⟨entryLine name value, below⟩ = some (members, rest)) :
    ∃ v lines more, readEntryValue fuel column ⟨' ' :: value, below⟩ = some (v, lines) ∧
      members = (name, v) :: more := by
  simp only [readEntries, entryLine, stands.readKey?_eq] at read
  split at read
  next => cases read
  next v lines found =>
    split at read
    next =>
      cases read
      exact ⟨v, _, [], found, rfl⟩
    next =>
      split at read
      next =>
        cases read
        exact ⟨v, _, [], found, rfl⟩
      next =>
        split at read
        next =>
          obtain ⟨⟨more, _⟩, -, same⟩ := Option.map_eq_some_iff.1 read
          cases same
          exact ⟨v, _, more, found, rfl⟩
        next => cases read

theorem readEntries_last {fuel column : Nat} {name value : String} (named : StandsPlain name)
    (stands : StandsPlain value) :
    readEntries (fuel + 2) column ⟨entryLine name value.toList, []⟩ =
      some ([(name, .text value)], []) := by
  have read : readEntryValue (fuel + 1) column ⟨' ' :: value.toList, []⟩ =
      some (.text value, []) := stands.readEntryValue_eq rfl
  simp [readEntries, entryLine, named.readKey?_eq, read, nextLine?, skipIdle]

section Document

variable {one other value : String} (first : IsKey one) (second : IsKey other)
  (stands : StandsPlain value)
include first second stands

theorem readEntries_two (fuel : Nat) (last : Line) :
    readEntries (fuel + 2) 0 ⟨entryLine one value.toList, [entryLine other last]⟩ =
      (readEntries (fuel + 1) 0 ⟨entryLine other last, []⟩).map (fun (members, below) =>
        ((one, .text value) :: members, below)) := by
  obtain ⟨c, rest, named, letter⟩ := second.letter
  have next : entryLine other last = c :: (rest ++ ':' :: ' ' :: last) := by
    rw [entryLine, named, List.cons_append]
  rw [next]
  have read : readEntryValue (fuel + 1) 0
      ⟨' ' :: value.toList, [c :: (rest ++ ':' :: ' ' :: last)]⟩ =
      some (.text value, [c :: (rest ++ ':' :: ' ' :: last)]) :=
    stands.readEntryValue_eq (plainBelow_of_letter letter 0 _ [])
  rw [readEntries, entryLine]
  simp [first.stands.readKey?_eq, read, nextLine?_of_letter letter]

omit second stands in
theorem readRoot_two (last : Line) :
    ∃ fuel, readRoot [entryLine one value.toList, entryLine other last] =
      match readEntries (fuel + 3) 0 ⟨entryLine one value.toList, [entryLine other last]⟩ with
      | some (members, below) => (objectOf? members).map (fun value => (value, below))
      | none => none := by
  obtain ⟨c, rest, named, letter⟩ := first.letter
  have key : entryLine one value.toList = c :: (rest ++ ':' :: ' ' :: value.toList) := by
    rw [entryLine, named, List.cons_append]
  obtain ⟨fuel, enough⟩ : ∃ fuel, fuelFor [entryLine one value.toList, entryLine other last] =
      fuel + 4 := Nat.exists_eq_add_of_le' (by simp only [fuelFor]; omega)
  have keyed : hasKey (entryLine one value.toList) = true := by
    simp [hasKey, entryLine, first.stands.readKey?_eq]
  refine ⟨fuel, ?_⟩
  rw [key] at keyed ⊢
  have start := contentStart_of_letter letter (rest ++ ':' :: ' ' :: value.toList)
    [entryLine other last]
  have next := nextLine?_of_letter letter (rest ++ ':' :: ' ' :: value.toList)
    [entryLine other last]
  rw [key] at enough
  simp only [readRoot, enough, start, next, List.isEmpty_nil, if_true]
  exact readNode_of_letter letter keyed

theorem exists_of_readRoot {last : Line} {text : String} {below : List Line}
    (read : readRoot [entryLine one value.toList, entryLine other last] =
      some (.object [(one, .text value), (other, .text text)], below)) :
    ∃ fuel below, readEntryValue fuel 0 ⟨' ' :: last, []⟩ = some (.text text, below) := by
  obtain ⟨fuel, same⟩ := readRoot_two first last
  rw [same, readEntries_two first second stands] at read
  cases entries : readEntries (fuel + 2) 0 ⟨entryLine other last, []⟩ with
  | none => simp [entries] at read
  | some entry =>
    obtain ⟨members, rest⟩ := entry
    obtain ⟨v, lines, more, found, listed⟩ := readEntries_head second.stands entries
    simp only [entries, Option.map_some, objectOf?] at read
    split at read
    next => cases read
    next =>
      cases read
      cases listed
      exact ⟨fuel + 1, lines, found⟩

theorem readRoot_plain {text : String} (apart : one ≠ other) (plain : StandsPlain text) :
    readRoot [entryLine one value.toList, entryLine other text.toList] =
      some (.object [(one, .text value), (other, .text text)], []) := by
  obtain ⟨fuel, same⟩ := readRoot_two first text.toList
  rw [same, readEntries_two first second stands, readEntries_last second.stands plain]
  simp [objectOf?, hasRepeated, apart]

omit second stands in
theorem read?_of_lines {text : String} {last : Line}
    (lines : linesOf (contentOf text) = [entryLine one value.toList, last]) :
    read? text = match readRoot [entryLine one value.toList, last] with
      | some (value, rest) => if endsCleanly rest then some (some value) else none
      | none => none := by
  obtain ⟨c, rest, named, letter⟩ := first.letter
  have held : holdsNone [entryLine one value.toList, last] = false := by
    rw [entryLine, named, List.cons_append, holdsNone, contentStart_of_letter letter]
    rfl
  simp only [read?, lines, held]
  rfl

def frontOf (one value other : String) : List Char :=
  entryLine one value.toList ++ '\n' :: entryLine other []

def twoEntries (one value other text : String) : String :=
  one ++ ": " ++ value ++ "\n" ++ other ++ ": " ++ text ++ "\n"

omit first second stands in
theorem toList_twoEntries (text : String) : (twoEntries one value other text).toList =
    frontOf one value other ++ (text.toList ++ ['\n']) := by
  simp [twoEntries, frontOf, entryLine]

theorem linesOf_frontOf {last : Line} {ending : List Char} (unbroken : Unbroken last)
    (ends : ending = [] ∨ Ending ending) :
    linesOf (frontOf one value other ++ (last ++ ending)) =
      [entryLine one value.toList, entryLine other last] := by
  have joined : frontOf one value other ++ (last ++ ending) =
      entryLine one value.toList ++ '\n' :: (entryLine other last ++ ending) := by
    simp [frontOf, entryLine]
  rw [joined]
  exact linesOf_two (first.stands.unbroken_entryLine stands.unbroken)
    (second.stands.unbroken_entryLine unbroken) (by simp [entryLine]) ends

theorem not_mem_frontOf : '\x00' ∉ frontOf one value other := by
  simp [frontOf, entryLine, first.stands.goesOn, second.stands.goesOn, stands.goesOn]

theorem exists_bare_of_twoEntries {text : String}
    (two : (linesOf (twoEntries one value other text).toList).length = 2) :
    ∃ bare ending, text.toList ++ ['\n'] = bare ++ ending ∧ Unbroken bare ∧ Ending ending := by
  have none {line : Line} (unbroken : Unbroken line) : line.count '\n' = 0 :=
    List.count_eq_zero_of_not_mem fun inside => (unbroken _ inside).1 rfl
  have head := first.stands.unbroken_entryLine stands.unbroken
  have key : Unbroken (entryLine other []) := second.stands.unbroken_entryLine nofun
  apply exists_bare
  rw [toList_twoEntries, ← List.append_assoc, length_linesOf, List.append_assoc, frontOf,
    List.append_assoc, List.cons_append, unifyBreaks_append head,
    unifyBreaks_cons (by decide), unifyBreaks_append key, List.count_append, List.count_cons_self,
    List.count_append, none head, none key] at two
  omega

theorem exists_last_of_twoEntries {text : String}
    (two : (linesOf (twoEntries one value other text).toList).length = 2) :
    ∃ last, linesOf (contentOf (twoEntries one value other text)) =
        [entryLine one value.toList, entryLine other last] ∧
      last.length ≤ text.toList.length ∧ Unbroken last ∧ '\x00' ∉ last := by
  obtain ⟨bare, ending, same, unbroken, ends⟩ := exists_bare_of_twoEntries first second stands two
  obtain ⟨rest, cut, closes⟩ := exists_takeWhile_ended bare ends
  have within : Unbroken (bare.takeWhile (· != '\x00')) := fun c inside =>
    unbroken c ((List.takeWhile_prefix _).subset inside)
  have lines := linesOf_frontOf first second stands within closes
  rw [← cut, ← same, ← takeWhile_goesOn (not_mem_frontOf first second stands),
    ← toList_twoEntries] at lines
  refine ⟨_, lines, ?_, within, fun inside => absurd (List.mem_takeWhile_imp inside) (by decide)⟩
  have part := (List.takeWhile_prefix (l := bare) (· != '\x00')).length_le
  have sizes := congrArg List.length same
  have some : 0 < ending.length := by cases ends <;> decide
  simp only [List.length_append, List.length_singleton] at sizes
  omega

theorem read?_twoEntries_iff (apart : one ≠ other) (text : String) :
    ((linesOf (twoEntries one value other text).toList).length = 2 ∧
      read? (twoEntries one value other text) =
        some (some (.object [(one, .text value), (other, .text text)]))) ↔
    StandsPlain text := by
  constructor
  · rintro ⟨two, read⟩
    obtain ⟨last, lines, long, unbroken, goesOn⟩ :=
      exists_last_of_twoEntries first second stands two
    rw [read?_of_lines first lines] at read
    split at read
    next found =>
      split at read
      next =>
        cases read
        obtain ⟨fuel, below, entry⟩ := exists_of_readRoot first second stands found
        obtain ⟨whole, starts, seamless, unpadded, means⟩ := whole_of_readEntryValue entry long
        rw [← whole] at unbroken goesOn starts seamless unpadded
        exact ⟨unbroken, goesOn, starts, unpadded.last, seamless, means⟩
      next => cases read
    next => cases read
  · intro plain
    have lines := linesOf_frontOf first second stands plain.unbroken (.inr .feed)
    have whole : contentOf (twoEntries one value other text) =
        (twoEntries one value other text).toList := by
      have ended : '\x00' ∉ frontOf one value other ++ (text.toList ++ ['\n']) := by
        simp [not_mem_frontOf first second stands, plain.goesOn]
      have through := takeWhile_goesOn ended []
      simpa [contentOf, toList_twoEntries] using through
    rw [← toList_twoEntries] at lines
    refine ⟨by rw [lines]; rfl, ?_⟩
    rw [read?_of_lines first (whole ▸ lines), readRoot_plain first second stands apart plain]
    rfl

end Document

end Leaderboard.Yaml
