import Mathlib.Data.List.DropRight
import Leaderboard.Proofs.Text.Split
import Leaderboard.Proofs.Yaml.Styles

set_option autoImplicit false

namespace Leaderboard.Yaml

section Lines

def closedLines (lines : List Line) : List Char := lines.flatMap (· ++ ['\n'])

def indented (indent : Nat) (line : Line) : Line :=
  if line.isEmpty then [] else List.replicate indent ' ' ++ line

theorem closedLines_cons (line : Line) (rest : List Line) :
    closedLines (line :: rest) = line ++ '\n' :: closedLines rest := by
  simp [closedLines]

theorem closedLines_append (first second : List Line) :
    closedLines (first ++ second) = closedLines first ++ closedLines second :=
  List.flatMap_append

theorem getLast?_closedLines {lines : List Line} (held : lines ≠ []) :
    (closedLines lines).getLast? = some '\n' := by
  obtain ⟨front, line, rfl⟩ := (List.eq_nil_or_concat' lines).resolve_left held
  simp [closedLines]

theorem not_mem_closedLines {lines : List Line} {c : Char} (other : c ≠ '\n')
    (free : ∀ line ∈ lines, c ∉ line) : c ∉ closedLines lines := by
  simp only [closedLines, List.mem_flatMap, List.mem_append, List.mem_singleton, other, or_false,
    not_exists, not_and]
  exact free

theorem closedLines_splitAll (cs : List Char) :
    closedLines (Text.splitAll '\n' cs) = cs ++ ['\n'] := by
  induction cs with
  | nil => rfl
  | cons c rest ih =>
    obtain ⟨part, parts, cut⟩ := List.exists_cons_of_ne_nil (Text.splitAll_ne_nil '\n' rest)
    rw [cut] at ih
    by_cases feed : c = '\n'
    · simpa [Text.splitAll, feed, closedLines, cut] using ih
    · simpa [Text.splitAll, feed, closedLines, cut] using ih

theorem linesOf_closedLines {lines : List Line} (unbroken : ∀ line ∈ lines, Unbroken line) :
    linesOf (closedLines lines) = lines := by
  induction lines with
  | nil => rfl
  | cons line rest ih =>
    rw [List.forall_mem_cons] at unbroken
    have bare : linesOf ['\n'] = [[]] := rfl
    have split : closedLines (line :: rest) = line ++ ['\n'] ++ closedLines rest := rfl
    rw [split, linesOf_append (by simp), ih unbroken.2, linesOf_unbroken_append unbroken.1 bare]
    simp

variable (indent : Nat)

theorem toList_literalChars_line {line : Line} (whole : ∀ c ∈ line, isBreak c = false)
    (rest : List Char) :
    (literalChars indent false (line ++ '\n' :: rest)).toList =
      line ++ '\n' :: (literalChars indent true rest).toList := by
  induction line with
  | nil => simp [literalChars, isBreak]
  | cons c line ih =>
    rw [List.forall_mem_cons] at whole
    simp [literalChars, whole.1, ih whole.2]

theorem toList_literalChars {lines : List Line}
    (whole : ∀ line ∈ lines, ∀ c ∈ line, isBreak c = false) :
    (literalChars indent true (closedLines lines)).toList =
      closedLines (lines.map (indented indent)) := by
  induction lines with
  | nil => rfl
  | cons line rest ih =>
    rw [List.forall_mem_cons] at whole
    rw [closedLines_cons, List.map_cons, closedLines_cons]
    cases line with
    | nil => simp [literalChars, isBreak, ih whole.2, indented]
    | cons c line =>
      have within := List.forall_mem_cons.1 whole.1
      simp [literalChars, within.1, toList_literalChars_line indent within.2, ih whole.2, indented,
        spaces]

theorem literalChars_concat (atStart : Bool) (cs : List Char) :
    literalChars indent atStart (cs ++ ['\n']) = literalChars indent atStart cs ++ "\n" := by
  induction cs generalizing atStart with
  | nil => rfl
  | cons c rest ih =>
    simp only [List.cons_append, literalChars, ih]
    split <;> simp [String.append_assoc]

end Lines

section Ends

theorem splitEnd_spec (lines : List Line) :
    lines = (splitEnd lines).1 ++ List.replicate (splitEnd lines).2 [] ∧
      (splitEnd lines).1.getLast? ≠ some [] := by
  have shown : (splitEnd lines).1 = lines.rdropWhile List.isEmpty := rfl
  have cut := lines.rdropWhile_append_rtakeWhile (p := List.isEmpty)
  have empty : lines.rtakeWhile List.isEmpty =
      List.replicate (lines.rtakeWhile List.isEmpty).length [] :=
    List.eq_replicate_iff.2 ⟨rfl, fun line inside =>
      List.isEmpty_iff.1 (List.mem_rtakeWhile_imp inside)⟩
  have count : (splitEnd lines).2 = (lines.rtakeWhile List.isEmpty).length := by
    have total := congrArg List.length cut
    have rest : (splitEnd lines).2 = lines.length - (splitEnd lines).1.length := rfl
    rw [List.length_append] at total
    rw [rest, shown]
    omega
  constructor
  · rw [shown, count, ← empty, cut]
  · intro last
    rw [shown, List.getLast?_eq_some_iff] at last
    obtain ⟨front, same⟩ := last
    have busy := lines.rdropWhile_last_not (p := List.isEmpty) (by simp [same])
    simp [same] at busy

theorem splitEnd_of_open {lines : List Line} (last : lines.getLast? ≠ some []) :
    splitEnd lines = (lines, 0) := by
  obtain ⟨whole, -⟩ := splitEnd_spec lines
  cases none : (splitEnd lines).2 with
  | zero =>
    rw [none, List.replicate_zero, List.append_nil] at whole
    exact Prod.ext whole.symm none
  | succ n =>
    rw [none, List.replicate_succ', ← List.append_assoc] at whole
    exact absurd (whole ▸ List.getLast?_concat) last

theorem joinBlock_eq {lines : List Line} (held : lines ≠ []) (last : lines.getLast? ≠ some [])
    (before : Line) (n : Nat) :
    joinBlock false before n lines ++ ['\n'] =
      List.replicate (n + 1) '\n' ++ closedLines lines := by
  induction lines generalizing before n with
  | nil => exact absurd rfl held
  | cons line rest ih =>
    have start : blockBreak false before line n = List.replicate (n + 1) '\n' := rfl
    -- The last line is not empty, so no count of empty lines is lost at the end.
    by_cases final : rest = []
    next =>
      subst final
      have busy : line.isEmpty = false := by simpa [List.isEmpty_iff] using last
      simp [joinBlock, busy, start, closedLines]
    next =>
      have later := ih final (by rwa [List.getLast?_cons_of_ne_nil final] at last)
      cases line with
      | nil => simp [joinBlock, later, closedLines_cons, List.replicate_succ']
      | cons c line => simp [joinBlock, later, start, closedLines_cons]

theorem blockLines_eq {lines : List Line} (held : lines ≠ []) (last : lines.getLast? ≠ some []) :
    blockLines false lines ++ ['\n'] = closedLines lines := by
  induction lines with
  | nil => exact absurd rfl held
  | cons line rest ih =>
    by_cases final : rest = []
    next =>
      subst final
      have busy : line.isEmpty = false := by simpa [List.isEmpty_iff] using last
      simp [blockLines, joinBlock, busy, closedLines]
    next =>
      rw [List.getLast?_cons_of_ne_nil final] at last
      cases line with
      | nil => simp [blockLines, ih final last, closedLines_cons]
      | cons c line => simp [blockLines, joinBlock_eq final last, closedLines_cons]

def chomped (how : Chomping) (lines : List Line) : List Char :=
  blockLines false (splitEnd lines).1 ++ blockEnd how (splitEnd lines).1 (splitEnd lines).2

theorem chomped_keep (lines : List Line) : chomped .keep lines = closedLines lines := by
  obtain ⟨whole, last⟩ := splitEnd_spec lines
  have breaks (n : Nat) : closedLines (List.replicate n []) = List.replicate n '\n' := by
    induction n with
    | zero => rfl
    | succ n ih => rw [List.replicate_succ, closedLines_cons, ih, List.replicate_succ]; rfl
  conv_rhs => rw [whole, closedLines_append, breaks]
  by_cases held : (splitEnd lines).1 = []
  -- A block of empty lines only has one break for each; else the last line has a break of its own.
  · simp [chomped, held, blockLines, blockEnd, closedLines]
  · rw [← blockLines_eq held last, List.append_assoc, List.singleton_append]
    simp [chomped, held, blockEnd, List.replicate_succ]

variable {lines : List Line} (held : lines ≠ []) (last : lines.getLast? ≠ some [])
include held last

theorem chomped_clip : chomped .clip lines = closedLines lines := by
  rw [chomped, splitEnd_of_open last, ← blockLines_eq held last]
  simp [blockEnd, held]

theorem chomped_strip : chomped .strip lines ++ ['\n'] = closedLines lines := by
  rw [chomped, splitEnd_of_open last, ← blockLines_eq held last]
  simp [blockEnd]

omit held last

theorem open_splitAll (front : List Char) {c : Char} (other : c ≠ '\n') :
    (Text.splitAll '\n' (front ++ [c])).getLast? ≠ some [] := by
  intro empty
  obtain ⟨lines, cut⟩ := List.getLast?_eq_some_iff.1 empty
  have whole := closedLines_splitAll (front ++ [c])
  rw [cut, closedLines_append] at whole
  have same : closedLines lines = front ++ [c] := List.append_cancel_right whole
  by_cases held : lines = []
  · subst held
    simp [closedLines] at same
  · have ended := getLast?_closedLines held
    rw [same, List.getLast?_concat] at ended
    exact other (Option.some.inj ended)

def Chomping.mark : Chomping → String
  | .strip => "-"
  | .clip => ""
  | .keep => "+"

structure Blocked (cs : List Char) (how : Chomping) (lines : List Line) : Prop where
  marked : chomping cs = how.mark
  whole : ∀ line ∈ lines, '\n' ∉ line ∧ line ⊆ cs
  closed : closedLines lines = if cs.getLast? = some '\n' then cs else cs ++ ['\n']
  read : chomped how lines = cs

theorem whole_splitAll {front cs : List Char} (within : front ⊆ cs) :
    ∀ line ∈ Text.splitAll '\n' front, '\n' ∉ line ∧ line ⊆ cs := fun _ inside =>
  ⟨Text.not_mem_of_mem_splitAll inside,
    List.Subset.trans (Text.subset_of_mem_splitAll inside) within⟩

theorem blocked_open {front : List Char} {c : Char} (plain : isBreak c = false) :
    Blocked (front ++ [c]) .strip (Text.splitAll '\n' (front ++ [c])) := by
  have other : c ≠ '\n' := by
    rintro rfl
    exact absurd plain (by decide)
  have parts := Text.splitAll_ne_nil '\n' (front ++ [c])
  have last := open_splitAll front other
  refine ⟨?_, whole_splitAll (List.Subset.refl _), ?_, ?_⟩
  · simp [chomping, plain, Chomping.mark]
  · rw [closedLines_splitAll, if_neg (by simpa using other)]
  · exact List.append_cancel_right ((chomped_strip parts last).trans (closedLines_splitAll _))

theorem chomping_closed (stem : List Char) (c : Char) :
    chomping (stem ++ [c] ++ ['\n']) = if isBreak c then "+" else "" := by
  have feed : isBreak '\n' = true := rfl
  simp [chomping, feed]

theorem blocked_closed (front : List Char) :
    ∃ how, Blocked (front ++ ['\n']) how (Text.splitAll '\n' front) := by
  have closed := closedLines_splitAll front
  have whole := whole_splitAll (List.subset_append_left front ['\n'])
  have ended : closedLines (Text.splitAll '\n' front) =
      if (front ++ ['\n']).getLast? = some '\n' then front ++ ['\n']
      else front ++ ['\n'] ++ ['\n'] := by
    rw [closed, if_pos List.getLast?_concat]
  -- A single break is kept like several, since there is no line that it could belong to.
  rcases List.eq_nil_or_concat' front with rfl | ⟨stem, c, rfl⟩
  next => exact ⟨.keep, rfl, whole, ended, by rw [chomped_keep, closed]⟩
  next =>
    cases broken : isBreak c with
    | true =>
      refine ⟨.keep, ?_, whole, ended, by rw [chomped_keep, closed]⟩
      rw [chomping_closed, if_pos broken]
      rfl
    | false =>
      have other : c ≠ '\n' := by
        rintro rfl
        exact absurd broken (by decide)
      have parts := Text.splitAll_ne_nil '\n' (stem ++ [c])
      have last := open_splitAll stem other
      refine ⟨.clip, ?_, whole, ended, by rw [chomped_clip parts last, closed]⟩
      rw [chomping_closed, broken]
      rfl

theorem exists_blocked {cs : List Char} (held : cs ≠ [])
    (feeds : ∀ c ∈ cs, isBreak c = true → c = '\n') : ∃ how lines, Blocked cs how lines := by
  obtain ⟨front, c, rfl⟩ := (List.eq_nil_or_concat' cs).resolve_left held
  cases broken : isBreak c with
  | true =>
    obtain rfl := feeds c (by simp) broken
    obtain ⟨how, blocked⟩ := blocked_closed front
    exact ⟨how, _, blocked⟩
  | false => exact ⟨.strip, _, blocked_open broken⟩

end Ends

section Reading

theorem indentOf_spaces (n : Nat) (line : Line) :
    indentOf (List.replicate n ' ' ++ line) = n + indentOf line := by
  unfold indentOf
  rw [List.takeWhile_append_of_pos fun d inside => by simp [List.eq_of_mem_replicate inside]]
  simp

theorem insideBlock_indented (n : Nat) (line : Line) : insideBlock n (indented n line) = true := by
  cases line with
  | nil => simp [indented, insideBlock]
  | cons c line => simp [indented, insideBlock, indentOf_spaces]

theorem outdent_indented (n : Nat) (line : Line) : outdent n (indented n line) = line := by
  cases line with
  | nil => simp [indented, outdent]
  | cons c line => simp [indented, outdent, indentOf_spaces]

theorem KeyLine.insideBlock_eq {column n : Nat} {line : Line} (keyed : KeyLine column line)
    (outer : column < n) : insideBlock n line = false := by
  have less : indentOf line < n := by rwa [keyed.indentOf_eq]
  obtain ⟨c, rest, rfl, letter⟩ := keyed
  simp [insideBlock, less, ne_of_letter letter (d := ' ') (by decide)]

variable {limit n : Nat} {below : List Line}

theorem KeysBefore.outside (ends : KeysBefore limit below) (bound : limit ≤ n) :
    below.takeWhile (insideBlock n) = [] ∧ below.dropWhile (insideBlock n) = below := by
  cases ends with
  | nil => exact ⟨rfl, rfl⟩
  | cons within keyed more => simp [keyed.insideBlock_eq (Nat.lt_of_lt_of_le within bound)]

theorem readBlock_indented {h : BlockHeader} {least : Nat} {lines : List Line}
    (literal : h.folded = false) (ends : KeysBefore limit below) (bound : limit ≤ n)
    (stated : blockIndent h least (lines.map (indented n) ++ below) = n) :
    readBlock h least (lines.map (indented n) ++ below) =
      (String.ofList (chomped h.chomping lines), below) := by
  obtain ⟨none, rest⟩ := ends.outside bound
  have all : ∀ line ∈ lines.map (indented n), insideBlock n line = true := by
    simp [insideBlock_indented]
  have same : (lines.map (indented n)).map (outdent n) = lines := by
    simp [Function.comp_def, outdent_indented]
  simp only [readBlock, stated, List.takeWhile_append_of_pos all, List.dropWhile_append_of_pos all,
    none, rest, List.append_nil, same, literal, chomped]

theorem blockIndent_first {h : BlockHeader} (unstated : h.indentation = none) {least : Nat}
    (bound : least ≤ n + 1) {c : Char} (visible : isGap c = false) (line : Line)
    (lines : List Line) :
    blockIndent h least (indented (n + 1) (c :: line) :: lines) = n + 1 := by
  have space : c ≠ ' ' := by
    rintro rfl
    cases visible
  have busy : isEmptyLine (indented (n + 1) (c :: line)) = false := by
    simp [isEmptyLine, indented, visible]
  have within : indentOf (indented (n + 1) (c :: line)) = n + 1 := by
    simp [indented, indentOf, space]
  simp [blockIndent, unstated, busy, within]
  omega

end Reading

section Texts

variable {indent : Nat} {text : String}

theorem getLast?_literalChars (atStart : Bool) (cs : List Char) :
    (literalChars indent atStart cs).toList.getLast? = cs.getLast? := by
  induction cs generalizing atStart with
  | nil => rfl
  | cons c rest ih =>
    simp only [literalChars]
    split <;> simp [List.getLast?_append, List.getLast?_cons, ih]

def headerLine (hint : String) (how : Chomping) : Line := '|' :: (hint ++ how.mark).toList

theorem toList_memberValue_literal (style : styleOf text = .literal) {how : Chomping}
    {lines : List Line} (blocked : Blocked text.toList how lines) (held : text.toList ≠ [])
    (whole : ∀ line ∈ lines, ∀ c ∈ line, isBreak c = false) :
    (memberValue indent (.text text)).toList =
      closedLines ((' ' :: headerLine (indentationHint text.toList) how) ::
        lines.map (indented (indent + 2))) := by
  have scalar : (textScalar (indent + 2) text).toList =
      headerLine (indentationHint text.toList) how ++
        '\n' :: (literalChars (indent + 2) true text.toList).toList := by
    simp [textScalar, style, blocked.marked, headerLine]
  have last : (textScalar (indent + 2) text).toList.getLast? = text.toList.getLast? := by
    obtain ⟨front, c, same⟩ := (List.eq_nil_or_concat' text.toList).resolve_left held
    simp [scalar, List.getLast?_append, List.getLast?_cons, getLast?_literalChars, same]
  rw [memberValue, String.toList_append, toList_closeLine, last, closedLines_cons,
    ← toList_literalChars _ whole, blocked.closed]
  split
  · simp [scalar]
  · simp [scalar, literalChars_concat]

def headerOf (hint : String) (how : Chomping) : BlockHeader :=
  ⟨false, how, if hint = "2" then some 2 else none⟩

theorem read?_headerLine {hint : String} (stated : hint = "" ∨ hint = "2") (how : Chomping) :
    BlockHeader.read? (headerLine hint how) = some (headerOf hint how) := by
  rcases stated with rfl | rfl <;> cases how <;> rfl

theorem unbroken_headerLine {hint : String} (stated : hint = "" ∨ hint = "2") (how : Chomping) :
    Unbroken (' ' :: headerLine hint how) ∧ '\x00' ∉ ' ' :: headerLine hint how := by
  rcases stated with rfl | rfl <;> cases how <;> decide

theorem mem_indented {n : Nat} {line : Line} {c : Char} (inside : c ∈ indented n line) :
    c = ' ' ∨ c ∈ line := by
  unfold indented at inside
  split at inside
  · cases inside
  · exact (List.mem_append.1 inside).imp_left List.eq_of_mem_replicate

theorem unbroken_indented {line : Line} (whole : ∀ c ∈ line, isBreak c = false) (n : Nat) :
    Unbroken (indented n line) := by
  refine unbroken_of_whole fun c inside => ?_
  rcases mem_indented inside with rfl | within
  · decide
  · exact whole c within

theorem hinted_of_blocked {cs : List Char} {how : Chomping} {lines : List Line} (held : cs ≠ [])
    (shown : Shown cs) (blocked : Blocked cs how lines) (indent : Nat) :
    (indentationHint cs = "" ∨ indentationHint cs = "2") ∧ ∀ below,
      blockIndent (headerOf (indentationHint cs) how) (indent + 1)
        (lines.map (indented (indent + 2)) ++ below) = indent + 2 := by
  obtain ⟨c, rest, rfl⟩ := List.exists_cons_of_ne_nil held
  have hint : indentationHint (c :: rest) = if c = ' ' ∨ isBreak c = true then "2" else "" := by
    simp [indentationHint]
  by_cases hidden : c = ' ' ∨ isBreak c = true
  next =>
    rw [hint, if_pos hidden]
    exact ⟨.inr rfl, fun below => by simp [blockIndent, headerOf]⟩
  next =>
    rw [hint, if_neg hidden]
    rw [not_or] at hidden
    have visible : isGap c = false := not_isGap (shown c List.mem_cons_self) hidden.1
    have other : c ≠ '\n' := by
      rintro rfl
      exact hidden.2 rfl
    obtain ⟨line, more, rfl⟩ : ∃ line more, lines = (c :: line) :: more := by
      have first : (closedLines lines).head? = some c := by
        rw [blocked.closed]
        split <;> rfl
      rcases lines with _ | ⟨_ | ⟨d, line⟩, more⟩
      · cases first
      · cases first
        exact absurd rfl other
      · cases first
        exact ⟨line, more, rfl⟩
    exact ⟨.inl rfl, fun below => blockIndent_first rfl (by omega) visible line _⟩

theorem readEntryValue_headerLine {hint : String} (stated : hint = "" ∨ hint = "2")
    (how : Chomping) (fuel : Nat) (below : List Line) :
    readEntryValue (fuel + 1) indent ⟨' ' :: headerLine hint how, below⟩ =
      some (.text (readBlock (headerOf hint how) (indent + 1) below).1,
        (readBlock (headerOf hint how) (indent + 1) below).2) := by
  have header := read?_headerLine stated how
  have skipped : skipGap (' ' :: headerLine hint how) = headerLine hint how := by
    simp [skipGap, headerLine, isGap]
  have busy : isIdle (' ' :: headerLine hint how) = false := by
    rw [isIdle, skipped]
    rfl
  simp [readEntryValue, busy, skipped, readInline, header]

theorem readsBack_literal (style : styleOf text = .literal)
    (feeds : ∀ c ∈ text.toList, isBreak c = true → c = '\n') :
    ReadsBack 1 indent (.text text) := by
  obtain ⟨shown, feed, -⟩ := literal_of_styleOf style
  have held : text.toList ≠ [] := List.ne_nil_of_mem feed
  obtain ⟨how, lines, blocked⟩ := exists_blocked held feeds
  obtain ⟨stated, within⟩ := hinted_of_blocked held shown blocked indent
  have whole : ∀ line ∈ lines, ∀ c ∈ line, isBreak c = false := by
    intro line inside c part
    obtain ⟨apart, subset⟩ := blocked.whole line inside
    cases broken : isBreak c with
    | false => rfl
    | true => exact absurd (feeds c (subset part) broken ▸ part) apart
  have written : (memberValue indent (.text text)).toList = _ :=
    toList_memberValue_literal style blocked held whole
  have unbroken : ∀ line ∈ (' ' :: headerLine (indentationHint text.toList) how) ::
      lines.map (indented (indent + 2)), Unbroken line := by
    rw [List.forall_mem_cons, List.forall_mem_map]
    exact ⟨(unbroken_headerLine stated how).1, fun line inside =>
      unbroken_indented (whole line inside) _⟩
  constructor
  case ended =>
    rw [written, getLast?_closedLines (List.cons_ne_nil _ _)]
  case goesOn =>
    rw [written]
    refine not_mem_closedLines (by decide) ?_
    rw [List.forall_mem_cons, List.forall_mem_map]
    refine ⟨(unbroken_headerLine stated how).2, fun line inside null => ?_⟩
    have within := (mem_indented null).resolve_left (by decide)
    exact shown.goesOn ((blocked.whole line inside).2 within)
  case reads =>
    have cut := linesOf_closedLines unbroken
    rw [← written] at cut
    refine ⟨_, _, cut, rfl, fun fuel enough below ends => ?_⟩
    obtain ⟨fuel, rfl⟩ : ∃ less, fuel = less + 1 := Nat.exists_eq_add_of_le' enough
    rw [readEntryValue_headerLine stated,
      readBlock_indented rfl ends (Nat.le_succ _) (within below), headerOf, blocked.read,
      String.ofList_toList]

end Texts

end Leaderboard.Yaml
