import Leaderboard.Proofs.Yaml.PlainText
import Leaderboard.Yaml.Reader

set_option autoImplicit false

namespace Leaderboard.Yaml

open Text (Unpadded)

section Lengths

theorem length_singleLine (line : Line) : (singleLine line).1.length ≤ line.length := by
  fun_induction singleLine line with
  | case1 => rfl
  | case2 rest glyphs ending later ih =>
    rw [later] at ih
    exact (Nat.succ_le_succ ih).trans (Nat.le_succ _)
  | case3 rest => exact Nat.zero_le _
  | case4 c rest _ _ glyphs ending later ih =>
    rw [later] at ih
    exact Nat.succ_le_succ ih

theorem length_glyph_cons {rest : Line} {later : Option (List Glyph × LineEnd)} {glyph : Glyph}
    {glyphs : List Glyph} {ending : LineEnd}
    (bound : ∀ {glyphs ending}, later = some (glyphs, ending) → glyphs.length ≤ rest.length)
    (read : (later.bind fun (glyphs, ending) => some (glyph :: glyphs, ending)) =
      some (glyphs, ending)) : glyphs.length ≤ rest.length + 1 := by
  obtain ⟨⟨others, _⟩, later, same⟩ := Option.bind_eq_some_iff.1 read
  cases same
  exact Nat.succ_le_succ (bound later)

theorem length_doubleLine {skip : Nat} {line : Line} {glyphs : List Glyph} {ending : LineEnd}
    (read : doubleLine skip line = some (glyphs, ending)) : glyphs.length ≤ line.length := by
  fun_induction doubleLine skip line generalizing glyphs ending with
  | case1 | case3 | case4 =>
    cases read
    exact Nat.zero_le _
  | case2 skip _ rest ih => exact (ih read).trans (Nat.le_succ _)
  | case5 => cases read
  | case6 c rest width _ _ ih | case7 c rest _ ih =>
    obtain ⟨_, -, read⟩ := Option.bind_eq_some_iff.1 read
    exact (length_glyph_cons ih read).trans (Nat.le_succ _)
  | case8 c rest _ _ _ ih => exact length_glyph_cons ih read

theorem length_readQuoted? {line : Line} {text : String} {after : Cursor}
    (read : readQuoted? ⟨line, []⟩ = some (text, after)) : text.toList.length < line.length := by
  have closed {parse : Line → Option (List Glyph × LineEnd)} {rest : Line}
      (bound : ∀ glyphs ending, parse rest = some (glyphs, ending) → glyphs.length ≤ rest.length)
      (read : quoted? parse ⟨rest, []⟩ = some (text, after)) :
      text.toList.length ≤ rest.length := by
    obtain ⟨⟨parts, _⟩, found, same⟩ := Option.map_eq_some_iff.1 read
    cases same
    unfold quotedParts at found
    split at found
    next => cases found
    next glyphs _ parsed =>
      cases found
      have := bound _ _ parsed
      simpa [foldLines, foldRest, glyphText] using this
    next => cases found
  unfold readQuoted? at read
  split at read
  next rest same =>
    cases same
    refine Nat.lt_succ_of_le (closed (fun glyphs ending parsed => ?_) read)
    have short := length_singleLine rest
    rwa [Option.some.inj parsed] at short
  next rest same =>
    cases same
    exact Nat.lt_succ_of_le (closed (fun _ _ => length_doubleLine) read)
  next => cases read

end Lengths

theorem readBlock_nil (h : BlockHeader) (least : Nat) : readBlock h least [] = ("", []) := by
  rcases h with ⟨folded, chomping, indentation⟩
  cases chomping <;> rfl

theorem readFlow_ne_text {fuel : Nat} {line : Line} {below : List Line} {value : Json}
    {after : Cursor} {mark : Char} (bracket : mark = '[' ∨ mark = '\x7b')
    (read : readFlow fuel ⟨mark :: line, below⟩ = some (value, after)) (text : String) :
    value ≠ .text text := by
  cases fuel with
  | zero => cases read
  | succ fuel =>
    rcases bracket with rfl | rfl
    · obtain ⟨_, -, same⟩ := Option.map_eq_some_iff.1 read
      cases same
      nofun
    · simp only [readFlow] at read
      split at read
      next =>
        obtain ⟨_, made, same⟩ := Option.map_eq_some_iff.1 read
        cases same
        unfold objectOf? at made
        split at made
        next => cases made
        next =>
          cases made
          nofun
      next => cases read

theorem plainText?_whole {least : Nat} {line : Line} {text : String} {below : List Line}
    (read : plainText? least ⟨line, []⟩ = some (text, below))
    (long : line.length ≤ text.toList.length) :
    text.toList = line ∧ startsPlain false line = true ∧ Seamless line ∧ Unpadded isGap line := by
  have part : startsPlain false line = true ∧ text.toList = (plainLine false line).1 := by
    obtain ⟨part, stop, cut⟩ : ∃ part stop, plainLine false line = (part, stop) := ⟨_, _, rfl⟩
    simp only [plainText?, cut] at read ⊢
    split at read
    next => cases read
    next starts =>
      refine ⟨by simpa using starts, ?_⟩
      split at read
      next => cases read
      next =>
        cases read
        rw [String.toList_ofList]
      next =>
        cases read
        simp [foldLines, foldRest]
  rw [part.2] at long ⊢
  obtain ⟨whole, seamless, unpadded⟩ := whole_of_plainLine long
  exact ⟨by rw [whole], part.1, seamless, unpadded⟩

-- What begins on a line with nothing below it is shorter than the line, or is the line itself.
theorem readInline_whole {fuel least : Nat} {line : Line} {text : String} {below : List Line}
    (read : readInline fuel least ⟨line, []⟩ = some (.text text, below)) (held : line ≠ [])
    (long : line.length ≤ text.toList.length) :
    text.toList = line ∧ startsPlain false line = true ∧ Seamless line ∧ Unpadded isGap line ∧
      resolve? text = some (.text text) := by
  have bracketed {mark : Char} {rest : Line} {after : Cursor} {value : Json}
      (bracket : mark = '[' ∨ mark = '\x7b')
      (flow : readFlow fuel ⟨mark :: rest, []⟩ = some (value, after))
      (found : after.finish?.map (fun below => (value, below)) = some (.text text, below)) :
      False := by
    obtain ⟨_, -, same⟩ := Option.map_eq_some_iff.1 found
    exact readFlow_ne_text bracket flow text (Prod.ext_iff.1 same).1
  unfold readInline at read
  split at read
  next header _ =>
    rw [readBlock_nil] at read
    cases read
    exact absurd (List.eq_nil_of_length_eq_zero (Nat.le_zero.1 long)) held
  next =>
    split at read
    next rest same =>
      cases same
      split at read
      next flow => exact (bracketed (.inl rfl) flow read).elim
      next => cases read
    next rest same =>
      cases same
      split at read
      next flow => exact (bracketed (.inr rfl) flow read).elim
      next => cases read
    iterate 2
      next =>
        split at read
        next quoted =>
          obtain ⟨_, -, same⟩ := Option.map_eq_some_iff.1 read
          cases same
          exact absurd (length_readQuoted? quoted) (Nat.not_lt.2 long)
        next => cases read
    next =>
      split at read
      next found =>
        obtain ⟨_, means, same⟩ := Option.map_eq_some_iff.1 read
        cases same
        have named := eq_of_resolve? means
        subst named
        obtain ⟨same, starts, seamless, unpadded⟩ := plainText?_whole found long
        exact ⟨same, starts, seamless, unpadded, means⟩
      next => cases read

theorem readQuoted?_of_startsPlain {line : Line} {below : List Line}
    (starts : startsPlain false line = true) : readQuoted? ⟨line, below⟩ = none := by
  have reserved {c : Char} (first : line.head? = some c) := (opening_of_startsPlain starts first).1
  unfold readQuoted?
  split
  iterate 2
    next same =>
      cases same
      exact absurd (reserved rfl) (by decide)
  next => rfl

theorem skipGap_of_startsPlain {line : Line} (starts : startsPlain false line = true) :
    skipGap (' ' :: line) = line := by
  have visible (c : Char) (first : line.head? = some c) : isGap c = false :=
    (opening_of_startsPlain starts first).2
  have gap : ∀ c ∈ [' '], isGap c = true := List.forall_mem_singleton.2 rfl
  exact Text.dropWhile_padded gap visible

theorem isIdle_of_startsPlain {line : Line} (starts : startsPlain false line = true) :
    isIdle (' ' :: line) = false := by
  rw [isIdle, skipGap_of_startsPlain starts]
  cases line with
  | nil => cases starts
  | cons c rest =>
    have hash : c ≠ '#' := by
      rintro rfl
      exact absurd (opening_of_startsPlain starts rfl).1 (by decide)
    exact beq_false_of_ne hash

namespace Bare

variable {line : Line} (bare : Bare line)
include bare

theorem plainText?_eq {least : Nat} {below : List Line}
    (ends : plainBelow least below = some ([], below)) :
    plainText? least ⟨line, below⟩ = some (String.ofList line, below) := by
  have whole := bare.plainLine_append stops_nil
  rw [List.append_nil] at whole
  simp [plainText?, bare.starts, whole, ends, foldLines, foldRest]

theorem readInline_eq {fuel least : Nat} {below : List Line} {value : Json}
    (ends : plainBelow least below = some ([], below))
    (means : resolve? (String.ofList line) = some value) :
    readInline fuel least ⟨line, below⟩ = some (value, below) := by
  have read := bare.plainText?_eq ends
  have reserved {c : Char} (first : line.head? = some c) :=
    (opening_of_startsPlain bare.starts first).1
  unfold readInline
  -- Nothing that could begin otherwise is read without quotes.
  split
  next found =>
    unfold BlockHeader.read? at found
    split at found
    iterate 2
      next same =>
        cases same
        exact absurd (reserved rfl) (by decide)
    next => cases found
  next =>
    split
    iterate 4
      next same =>
        cases same
        exact absurd (reserved rfl) (by decide)
    next => simp [read, means]

theorem readEntryValue_eq {fuel column : Nat} {below : List Line} {value : Json}
    (ends : plainBelow (column + 1) below = some ([], below))
    (means : resolve? (String.ofList line) = some value) :
    readEntryValue (fuel + 1) column ⟨' ' :: line, below⟩ = some (value, below) := by
  simp [readEntryValue, isIdle_of_startsPlain bare.starts, skipGap_of_startsPlain bare.starts,
    bare.readInline_eq ends means]

end Bare

namespace StandsPlain

variable {text : String} (stands : StandsPlain text)
include stands

theorem readEntryValue_eq {fuel column : Nat} {below : List Line}
    (ends : plainBelow (column + 1) below = some ([], below)) :
    readEntryValue (fuel + 1) column ⟨' ' :: text.toList, below⟩ = some (.text text, below) :=
  stands.bare.readEntryValue_eq ends (by rw [String.ofList_toList, stands.means])

theorem readKey?_mark {rest : Line} (gap : atGap rest = true) :
    readKey? (text.toList ++ ':' :: rest) = some (text, rest) := by
  have starts := startsPlain_append stands.starts (':' :: rest)
  simp [readKey?, readQuoted?_of_startsPlain starts, starts,
    stands.bare.plainLine_append (stops_colon gap), keyName?, stands.means]

theorem readKey?_eq (rest : Line) :
    readKey? (text.toList ++ ':' :: ' ' :: rest) = some (text, ' ' :: rest) :=
  stands.readKey?_mark rfl

end StandsPlain

theorem whole_of_readEntryValue {fuel column : Nat} {value : Line} {text : String}
    {below : List Line}
    (read : readEntryValue fuel column ⟨' ' :: value, []⟩ = some (.text text, below))
    (long : value.length ≤ text.toList.length) :
    text.toList = value ∧ startsPlain false value = true ∧ Seamless value ∧
      Unpadded isGap value ∧ resolve? text = some (.text text) := by
  cases fuel with
  | zero => simp [readEntryValue] at read
  | succ fuel =>
    simp only [readEntryValue] at read
    split at read
    next =>
      -- With nothing on the lines below, the value is null.
      cases fuel <;> simp [readBelow, nextLine?, skipIdle] at read
    next busy =>
      have behind : skipGap (' ' :: value) <:+ value :=
        (List.dropWhile_suffix isGap : value.dropWhile isGap <:+ value)
      have held : skipGap (' ' :: value) ≠ [] := by
        intro nothing
        simp [isIdle, nothing] at busy
      obtain ⟨same, facts⟩ := readInline_whole read held (behind.length_le.trans long)
      have whole : skipGap (' ' :: value) = value := by
        rw [same] at long
        exact behind.eq_of_length_le long
      rw [whole] at same facts
      exact ⟨same, facts⟩

end Leaderboard.Yaml
