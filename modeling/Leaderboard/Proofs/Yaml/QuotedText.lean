import Leaderboard.Proofs.Text.Utf8
import Leaderboard.Proofs.Yaml.Styles

set_option autoImplicit false

namespace Leaderboard.Yaml

variable {indent : Nat} {text : String}

theorem readsBack_of_quoted {quote : Char} {line : Line}
    (written : (textScalar (indent + 2) text).toList = quote :: (line ++ [quote]))
    (mark : quote = '\'' ∨ quote = '"') (unbroken : Unbroken line) (goesOn : '\x00' ∉ line)
    (read : ∀ below, readQuoted? ⟨quote :: (line ++ [quote]), below⟩ = some (text, ⟨[], below⟩)) :
    ReadsBack 1 indent (.text text) := by
  obtain ⟨gap, comment, null, feed⟩ :
      isGap quote = false ∧ quote ≠ '#' ∧ '\x00' ≠ quote ∧ quote ≠ '\n' ∧ quote ≠ '\r' := by
    rcases mark with rfl | rfl <;> decide
  have whole : Unbroken (quote :: (line ++ [quote])) := by
    simpa [Unbroken, or_imp, forall_and, feed] using unbroken
  have last : (quote :: (line ++ [quote])).getLast? ≠ some '\n' := by
    simpa [List.getLast?_cons] using feed.1
  refine readsBack_of_line (toList_memberValue_of_open written last) whole ?_ gap comment ?_
  · simp [null, goesOn]
  intro fuel below _
  rcases mark with rfl | rfl <;> simp [readInline, BlockHeader.read?, read, Cursor.finish?]

theorem quoted?_closed {read : Line → Option (List Glyph × LineEnd)} {line : Line}
    {glyphs : List Glyph} {text : String} (closed : read line = some (glyphs, .closed []))
    (same : glyphs.map (·.char) = text.toList) (below : List Line) :
    quoted? read ⟨line, below⟩ = some (text, ⟨[], below⟩) := by
  have parts : quotedParts read line below = some ([text.toList], ⟨[], below⟩) := by
    unfold quotedParts
    simp [closed, glyphText, same]
  simp [quoted?, parts, foldLines, foldRest]

section Single

def singleWritten (c : Char) : List Char := if c = '\'' then ['\'', '\''] else [c]

theorem toList_singleChars (indent : Nat) {cs : List Char} (whole : ∀ c ∈ cs, isBreak c = false) :
    (singleChars indent false cs).toList = cs.flatMap singleWritten := by
  induction cs with
  | nil => rfl
  | cons c rest ih =>
    rw [List.forall_mem_cons] at whole
    by_cases space : c = ' '
    · simp [singleChars, singleWritten, space, ih whole.2]
    · by_cases quote : c = '\''
      · simp [singleChars, singleWritten, quote, ih whole.2, isBreak]
      · simp [singleChars, singleWritten, space, quote, ih whole.2, whole.1]

theorem singleLine_written (cs : List Char) :
    ∃ glyphs, singleLine (cs.flatMap singleWritten ++ ['\'']) = (glyphs, .closed []) ∧
      glyphs.map (·.char) = cs := by
  induction cs with
  | nil => exact ⟨[], by rfl, rfl⟩
  | cons c rest ih =>
    obtain ⟨glyphs, read, same⟩ := ih
    by_cases quote : c = '\''
    · exact ⟨⟨c, true⟩ :: glyphs, by simp [singleWritten, quote, singleLine, read], by simp [same]⟩
    · exact ⟨⟨c, false⟩ :: glyphs, by simp [singleWritten, quote, singleLine, read], by simp [same]⟩

end Single

section Double

def escapeOf? : List Char → Option Char
  | '\\' :: mark :: digits =>
    match escapeWidth? mark with
    | some width => if digits.length = width then hexChar? digits else none
    | none => if digits = [] then (escapes.lookup mark).map Char.ofNat else none
  | _ => none

theorem doubleLine_skip (skipped rest : Line) :
    doubleLine skipped.length (skipped ++ rest) = doubleLine 0 rest := by
  induction skipped with
  | nil => rfl
  | cons c skipped ih => rw [List.length_cons, List.cons_append, doubleLine, ih]

def onto (glyph : Glyph) (line : Option (List Glyph × LineEnd)) : Option (List Glyph × LineEnd) :=
  line.map fun (glyphs, ending) => (glyph :: glyphs, ending)

theorem doubleLine_escape {front : List Char} {c : Char} (escape : escapeOf? front = some c)
    (rest : Line) : doubleLine 0 (front ++ rest) = onto ⟨c, true⟩ (doubleLine 0 rest) := by
  unfold escapeOf? at escape
  split at escape
  next mark digits =>
    split at escape
    next width wide =>
      split at escape
      next long =>
        subst long
        have enough : ¬ (digits ++ rest).length < digits.length := by simp
        simp only [List.cons_append, doubleLine, wide, enough, if_false, List.take_left', escape,
          doubleLine_skip]
        cases doubleLine 0 rest <;> rfl
      next => cases escape
    next narrow =>
      split at escape
      next bare =>
        subst bare
        simp only [List.cons_append, List.nil_append, doubleLine, narrow, escape]
        cases doubleLine 0 rest <;> rfl
      next => cases escape
  next => cases escape

def isVisible (c : Char) : Bool := isPrintable c && !isBreak c

def standsInQuotes (c : Char) : Bool := isVisible c && c != '"' && c != '\\'

-- Beyond the first code points only a few are escaped, so that all escapes can be listed.
def escapedPoints : List Nat := List.range 0xA0 ++ [0x2028, 0x2029, 0xFEFF, 0xFFFE, 0xFFFF]

theorem mem_escapedPoints {c : Char} (escaped : standsInQuotes c = false) :
    c.toNat ∈ escapedPoints := by
  rw [escapedPoints, List.mem_append, List.mem_range]
  by_contra out
  simp only [List.mem_cons, List.not_mem_nil, or_false, not_or] at out
  have apart {d : Char} (low : d.toNat < 0xA0) : c ≠ d := fun same => out.1 (same ▸ low)
  have valid := Text.isValidChar_toNat c
  simp [standsInQuotes, isVisible, isPrintable, isBreak, apart (d := '"') (by decide),
    apart (d := '\\') (by decide), apart (d := '\n') (by decide),
    apart (d := '\r') (by decide)] at escaped
  omega

theorem escape_doubleChar {c : Char} (escaped : standsInQuotes c = false) :
    escapeOf? (doubleChar c).toList = some c ∧ (doubleChar c).toList.all isVisible = true := by
  have known : (escapedPoints.all fun n =>
      standsInQuotes (Char.ofNat n) ||
        (escapeOf? (doubleChar (Char.ofNat n)).toList == some (Char.ofNat n) &&
          (doubleChar (Char.ofNat n)).toList.all isVisible)) = true := by
    decide +kernel
  have found := List.all_eq_true.1 known _ (mem_escapedPoints escaped)
  simpa only [Char.ofNat_toNat, escaped, Bool.false_or, Bool.and_eq_true, beq_iff_eq] using found

theorem doubleChar_of_standsInQuotes {c : Char} (stands : standsInQuotes c = true) :
    doubleChar c = String.singleton c := by
  simp only [standsInQuotes, isVisible, Bool.and_eq_true, Bool.not_eq_true', bne_iff_ne] at stands
  obtain ⟨⟨⟨printable, whole⟩, quote⟩, backslash⟩ := stands
  simp [doubleChar, quote, backslash, printable, whole]

theorem visible_doubleChar (c : Char) : (doubleChar c).toList.all isVisible = true := by
  cases stands : standsInQuotes c with
  | true =>
    rw [doubleChar_of_standsInQuotes stands]
    simp only [standsInQuotes, Bool.and_eq_true] at stands
    simp [stands]
  | false => exact (escape_doubleChar stands).2

theorem doubleLine_doubleChar (c : Char) (rest : Line) :
    ∃ escaped, doubleLine 0 ((doubleChar c).toList ++ rest) =
      onto ⟨c, escaped⟩ (doubleLine 0 rest) := by
  cases stands : standsInQuotes c with
  | true =>
    refine ⟨false, ?_⟩
    rw [doubleChar_of_standsInQuotes stands, String.toList_singleton, List.singleton_append]
    simp only [standsInQuotes, Bool.and_eq_true, bne_iff_ne] at stands
    rw [doubleLine]
    · cases doubleLine 0 rest <;> rfl
    all_goals simp [stands]
  | false => exact ⟨true, doubleLine_escape (escape_doubleChar stands).1 rest⟩

theorem doubleLine_written (cs : List Char) :
    ∃ glyphs, doubleLine 0 (cs.flatMap (fun c => (doubleChar c).toList) ++ ['"']) =
      some (glyphs, .closed []) ∧ glyphs.map (·.char) = cs := by
  induction cs with
  | nil => exact ⟨[], by rfl, rfl⟩
  | cons c rest ih =>
    obtain ⟨glyphs, read, same⟩ := ih
    obtain ⟨escaped, step⟩ := doubleLine_doubleChar c
      (rest.flatMap (fun c => (doubleChar c).toList) ++ ['"'])
    refine ⟨⟨c, escaped⟩ :: glyphs, ?_, by simp [same]⟩
    rw [List.flatMap_cons, List.append_assoc, step, read]
    rfl

end Double

section Texts

variable {indent : Nat} {text : String}

theorem toList_textScalar_double (style : styleOf text = .double) :
    (textScalar indent text).toList =
      '"' :: (text.toList.flatMap (fun c => (doubleChar c).toList) ++ ['"']) := by
  simp [textScalar, style, String.toList_join, List.flatMap, Function.comp_def]

theorem visible_flatMap_doubleChar (cs : List Char) :
    (cs.flatMap (fun c => (doubleChar c).toList)).all isVisible = true := by
  simp only [List.all_flatMap, visible_doubleChar, List.all_eq_true, implies_true]

theorem readsBack_double (style : styleOf text = .double) : ReadsBack 1 indent (.text text) := by
  have visible := visible_flatMap_doubleChar text.toList
  refine readsBack_of_quoted (toList_textScalar_double style) (.inr rfl)
    (unbroken_of_whole fun c inside => ?_) ?_ fun below => ?_
  · have plain := List.all_eq_true.1 visible c inside
    simp only [isVisible, Bool.and_eq_true, Bool.not_eq_true'] at plain
    exact plain.2
  · exact fun inside => absurd (List.all_eq_true.1 visible _ inside) (by decide)
  obtain ⟨glyphs, closed, same⟩ := doubleLine_written text.toList
  exact quoted?_closed closed same below

theorem toList_textScalar_single (style : styleOf text = .single)
    (whole : ∀ c ∈ text.toList, isBreak c = false) :
    (textScalar indent text).toList = '\'' :: (text.toList.flatMap singleWritten ++ ['\'']) := by
  simp [textScalar, style, toList_singleChars indent whole]

theorem mem_flatMap_singleWritten {cs : List Char} {c : Char}
    (inside : c ∈ cs.flatMap singleWritten) : c ∈ cs := by
  obtain ⟨d, member, written⟩ := List.mem_flatMap.1 inside
  have same : c = d := by
    unfold singleWritten at written
    split at written <;> simp_all
  exact same ▸ member

theorem readsBack_single (style : styleOf text = .single)
    (whole : ∀ c ∈ text.toList, isBreak c = false) : ReadsBack 1 indent (.text text) := by
  have shown := (single_of_styleOf style).1
  have unbroken : Unbroken (text.toList.flatMap singleWritten) :=
    unbroken_of_whole fun c inside => whole c (mem_flatMap_singleWritten inside)
  refine readsBack_of_quoted (toList_textScalar_single style whole) (.inl rfl) unbroken ?_
    fun below => ?_
  · exact fun inside => shown.goesOn (mem_flatMap_singleWritten inside)
  · obtain ⟨glyphs, closed, same⟩ := singleLine_written text.toList
    exact quoted?_closed (congrArg some closed) same below

end Texts

end Leaderboard.Yaml
