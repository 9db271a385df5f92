import Leaderboard.Proofs.Json.Number

set_option autoImplicit false

namespace Leaderboard.Json

def Blank (space : List Char) : Prop := ∀ c ∈ space, isSpace c = true

instance (space : List Char) : Decidable (Blank space) :=
  decidable_of_iff (space.all isSpace = true) List.all_eq_true

theorem blank_nil : Blank [] := nofun

theorem skipSpace_append {space more : List Char} (blank : Blank space)
    (apart : Apart isSpace more) : skipSpace (space ++ more) = more :=
  Text.dropWhile_padded blank apart

theorem skipSpace_blank_cons {space : List Char} {c : Char} (blank : Blank space)
    (visible : isSpace c = false) (rest : List Char) : skipSpace (space ++ c :: rest) = c :: rest :=
  skipSpace_append blank (apart_cons.2 visible)

theorem skipSpace_cons {c : Char} (visible : isSpace c = false) (rest : List Char) :
    skipSpace (c :: rest) = c :: rest :=
  skipSpace_blank_cons blank_nil visible rest

theorem apart_skipSpace (cs : List Char) : Apart isSpace (skipSpace cs) := by
  intro c first
  have stopped := List.head?_dropWhile_not isSpace cs
  rw [← skipSpace, first] at stopped
  exact stopped

theorem skipSpace_skipSpace (cs : List Char) : skipSpace (skipSpace cs) = skipSpace cs :=
  skipSpace_append blank_nil (apart_skipSpace cs)

theorem exists_blank (cs : List Char) : ∃ space, Blank space ∧ cs = space ++ skipSpace cs :=
  ⟨cs.takeWhile isSpace, fun _ inside => List.mem_takeWhile_imp inside,
    List.takeWhile_append_dropWhile.symm⟩

inductive PiecesText : List Char → List Piece → Prop
  | close : PiecesText ['"'] []
  | unit {a b c d : Char} {n : Nat} {front : List Char} {pieces : List Piece}
    (digits : hexUnit? a b c d = some n) (rest : PiecesText front pieces) :
    PiecesText ('\\' :: 'u' :: a :: b :: c :: d :: front) (.unit n :: pieces)
  | escape {letter c : Char} {front : List Char} {pieces : List Piece}
    (known : simpleEscape? letter = some c) (rest : PiecesText front pieces) :
    PiecesText ('\\' :: letter :: front) (.char c :: pieces)
  | plain {c : Char} {front : List Char} {pieces : List Piece} (quote : c ≠ '"')
    (backslash : c ≠ '\\') (visible : 0x20 ≤ c.toNat) (rest : PiecesText front pieces) :
    PiecesText (c :: front) (.char c :: pieces)

inductive TextBody : List Char → String → Prop
  | pieces {body chars : List Char} {pieces : List Piece} (written : PiecesText body pieces)
    (joined : joinPieces pieces = some chars) : TextBody body (String.ofList chars)

theorem readPieces_append {front : List Char} {pieces : List Piece}
    (written : PiecesText front pieces) (more : List Char) :
    readPieces (front ++ more) = some (pieces, more) := by
  induction written with
  | close => rfl
  | unit digits _ ih => simp [readPieces, digits, ih]
  | @escape letter _ _ _ known _ ih =>
    -- The letter that begins four digits is no escape of its own.
    have other : letter ≠ 'u' := by rintro rfl; cases known
    simp [readPieces, other, known, ih]
  | plain quote backslash visible _ ih =>
    rw [List.cons_append, readPieces.eq_5 _ _ quote
      (fun _ _ _ _ _ first => absurd first backslash) (fun _ _ first => absurd first backslash)]
    simp [backslash, visible, ih]

theorem exists_piecesText {cs more : List Char} {pieces : List Piece}
    (read : readPieces cs = some (pieces, more)) :
    ∃ front, PiecesText front pieces ∧ cs = front ++ more := by
  fun_induction readPieces cs generalizing pieces more with
  | case1 | case3 | case5 | case7 => cases read
  | case2 rest =>
    cases read
    exact ⟨['"'], .close, rfl⟩
  | case4 a b c d rest n unit ih =>
    obtain ⟨⟨others, after⟩, restRead, same⟩ := Option.map_eq_some_iff.1 read
    cases same
    obtain ⟨front, written, same⟩ := ih restRead
    exact ⟨_, .unit unit written, by rw [same]; rfl⟩
  | case6 c rest other e escape ih =>
    obtain ⟨⟨others, after⟩, restRead, same⟩ := Option.map_eq_some_iff.1 read
    cases same
    obtain ⟨front, written, same⟩ := ih restRead
    exact ⟨_, .escape escape written, by rw [same]; rfl⟩
  | case8 c rest quote unit backslash plain ih =>
    obtain ⟨⟨others, after⟩, restRead, same⟩ := Option.map_eq_some_iff.1 read
    cases same
    obtain ⟨front, written, same⟩ := ih restRead
    simp only [Bool.or_eq_true, decide_eq_true_eq, beq_iff_eq, not_or, not_lt] at plain
    exact ⟨_, .plain quote plain.2 plain.1 written, by rw [same]; rfl⟩

theorem readText_append {body : List Char} {s : String} (text : TextBody body s)
    (more : List Char) : readText (body ++ more) = some (s, more) := by
  cases text with
  | pieces written joined => simp [readText, readPieces_append written more, joined]

theorem exists_textBody {cs more : List Char} {s : String} (read : readText cs = some (s, more)) :
    ∃ body, TextBody body s ∧ cs = body ++ more := by
  simp only [readText, Option.bind_eq_bind, Option.bind_eq_some_iff] at read
  obtain ⟨⟨pieces, rest⟩, piecesRead, chars, joined, same⟩ := read
  cases same
  obtain ⟨front, written, same⟩ := exists_piecesText piecesRead
  exact ⟨front, .pieces written joined, same⟩

inductive NameText : List Char → String → Prop
  | name {space body inner : List Char} {s : String} (before : Blank space)
    (text : TextBody body s) (after : Blank inner) :
    NameText (space ++ '"' :: (body ++ (inner ++ [':']))) s

theorem readName_append {front : List Char} {s : String} (text : NameText front s)
    (more : List Char) : readName (front ++ more) = some (s, more) := by
  cases text with
  | @name space body inner _ before text after =>
    have quote : ∀ rest, skipSpace (space ++ '"' :: rest) = '"' :: rest :=
      skipSpace_blank_cons before (by decide)
    have colon : skipSpace (inner ++ ':' :: more) = ':' :: more :=
      skipSpace_blank_cons after (by decide) more
    have read := readText_append text (inner ++ ':' :: more)
    simp only [readName, List.append_assoc, List.cons_append, List.nil_append, quote, read, colon]

theorem exists_nameText {cs more : List Char} {s : String} (read : readName cs = some (s, more)) :
    ∃ front, NameText front s ∧ cs = front ++ more := by
  obtain ⟨space, before, same⟩ := exists_blank cs
  unfold readName at read
  split at read
  next rest quoted =>
    split at read
    next => cases read
    next name afterText textRead =>
      obtain ⟨body, text, bodySame⟩ := exists_textBody textRead
      obtain ⟨inner, after, innerSame⟩ := exists_blank afterText
      split at read
      next value colon =>
        cases read
        refine ⟨_, .name before text after, ?_⟩
        rw [same, quoted, bodySame, innerSame, colon]
        simp
      next => cases read
  next => cases read

theorem readName_eq_some_iff {text : List Char} {s : String} :
    readName text = some (s, []) ↔ NameText text s := by
  constructor
  · intro read
    obtain ⟨front, written, same⟩ := exists_nameText read
    rw [List.append_nil] at same
    rwa [same]
  · intro written
    have read := readName_append written []
    rwa [List.append_nil] at read

mutual

inductive ValueText : Nat → List Char → Json → Prop
  | text {depth : Nat} {space body : List Char} {s : String} (blank : Blank space)
    (text : TextBody body s) : ValueText depth (space ++ '"' :: body) (.text s)
  | emptyList {depth : Nat} {space inner : List Char} (blank : Blank space) (hollow : Blank inner) :
    ValueText (depth + 1) (space ++ '[' :: (inner ++ [']'])) (.list [])
  | list {depth : Nat} {space items : List Char} {values : List Json} (blank : Blank space)
    (inside : ItemsText depth items values) :
    ValueText (depth + 1) (space ++ '[' :: items) (.list values)
  | emptyObject {depth : Nat} {space inner : List Char} (blank : Blank space)
    (hollow : Blank inner) :
    ValueText (depth + 1) (space ++ '\x7b' :: (inner ++ ['\x7d'])) (.object [])
  | object {depth : Nat} {space pairs : List Char} {members : List (String × Json)}
    (blank : Blank space) (inside : MembersText depth pairs members) :
    ValueText (depth + 1) (space ++ '\x7b' :: pairs) (.object members)
  | null {depth : Nat} {space : List Char} (blank : Blank space) :
    ValueText depth (space ++ ['n', 'u', 'l', 'l']) .null
  | isTrue {depth : Nat} {space : List Char} (blank : Blank space) :
    ValueText depth (space ++ ['t', 'r', 'u', 'e']) (.boolean true)
  | isFalse {depth : Nat} {space : List Char} (blank : Blank space) :
    ValueText depth (space ++ ['f', 'a', 'l', 's', 'e']) (.boolean false)
  | number {depth : Nat} {space digits : List Char} {value : Json} (blank : Blank space)
    (written : NumberText digits value) : ValueText depth (space ++ digits) value

inductive ItemsText : Nat → List Char → List Json → Prop
  | last {depth : Nat} {item space : List Char} {value : Json} (first : ValueText depth item value)
    (blank : Blank space) : ItemsText depth (item ++ (space ++ [']'])) [value]
  | cons {depth : Nat} {item space items : List Char} {value : Json} {values : List Json}
    (first : ValueText depth item value) (blank : Blank space)
    (rest : ItemsText depth items values) :
    ItemsText depth (item ++ (space ++ ',' :: items)) (value :: values)

inductive MembersText : Nat → List Char → List (String × Json) → Prop
  | last {depth : Nat} {front item space : List Char} {name : String} {value : Json}
    (named : NameText front name) (first : ValueText depth item value) (blank : Blank space) :
    MembersText depth (front ++ (item ++ (space ++ ['\x7d']))) [(name, value)]
  | cons {depth : Nat} {front item space pairs : List Char} {name : String} {value : Json}
    {members : List (String × Json)} (named : NameText front name)
    (first : ValueText depth item value) (blank : Blank space)
    (rest : MembersText depth pairs members) :
    MembersText depth (front ++ (item ++ (space ++ ',' :: pairs))) ((name, value) :: members)

end

-- A number goes on as long as it can.
def EndsAt : Json → List Char → Prop
  | .integer _, more | .real _, more => Apart continuesNumber more
  | _, _ => True

theorem endsAt_of_apart {value : Json} {more : List Char} (apart : Apart continuesNumber more) :
    EndsAt value more := by
  cases value with
  | integer => exact apart
  | real => exact apart
  | _ => trivial

theorem not_continuesNumber_of_isSpace {c : Char} (space : isSpace c = true) :
    continuesNumber c = false := by
  simp only [isSpace, Bool.or_eq_true, beq_iff_eq] at space
  rcases space with ((rfl | rfl) | rfl) | rfl <;> decide

theorem apart_blank_append {space : List Char} (blank : Blank space) {c : Char}
    (stops : continuesNumber c = false) (rest : List Char) :
    Apart continuesNumber (space ++ c :: rest) := by
  cases space with
  | nil => exact apart_cons.2 stops
  | cons s others =>
    exact apart_cons.2 (not_continuesNumber_of_isSpace (blank s List.mem_cons_self))

theorem NumberText.begins {text : List Char} {value : Json} (written : NumberText text value) :
    ∃ c rest, text = c :: rest ∧ (c = '-' ∨ c.isDigit = true) := by
  cases written with
  | @parts negative whole _ _ _ _ _ wholeText =>
    cases negative with
    | true => exact ⟨'-', _, rfl, .inl rfl⟩
    | false =>
      cases whole with
      | nil => exact absurd rfl wholeText.nonempty
      | cons d rest => exact ⟨d, _, rfl, .inr (wholeText.digits d List.mem_cons_self)⟩

theorem NumberText.isNumber {text : List Char} {value : Json} (written : NumberText text value) :
    (∃ n, value = .integer n) ∨ ∃ x, value = .real x := by
  cases written with
  | parts _ _ _ value =>
    unfold numberOf at value
    grind

theorem readScalar_append {text more : List Char} {value : Json} (written : NumberText text value)
    (apart : Apart continuesNumber more) : readScalar (text ++ more) = some (value, more) := by
  obtain ⟨c, rest, same, first⟩ := written.begins
  have letter : c ≠ 'n' ∧ c ≠ 't' ∧ c ≠ 'f' := by
    rcases first with rfl | digit
    · decide
    · refine ⟨?_, ?_, ?_⟩ <;> rintro rfl <;> exact absurd digit (by decide)
  rw [← readNumber_append written apart, same, List.cons_append]
  exact readScalar.eq_4 _ (fun _ first => absurd (List.cons.inj first).1 letter.1)
    (fun _ first => absurd (List.cons.inj first).1 letter.2.1)
    (fun _ first => absurd (List.cons.inj first).1 letter.2.2)

theorem readValue_skipSpace (depth fuel : Nat) (cs : List Char) :
    readValue depth fuel (skipSpace cs) = readValue depth fuel cs := by
  cases fuel with
  | zero => rfl
  | succ fuel => simp only [readValue, skipSpace_skipSpace]

theorem readItems_skipSpace (depth fuel : Nat) (cs : List Char) :
    readItems depth fuel (skipSpace cs) = readItems depth fuel cs := by
  cases fuel with
  | zero => rfl
  | succ fuel => simp only [readItems, readValue_skipSpace]

theorem readMembers_skipSpace (depth fuel : Nat) (cs : List Char) :
    readMembers depth fuel (skipSpace cs) = readMembers depth fuel cs := by
  cases fuel with
  | zero => rfl
  | succ fuel => simp only [readMembers, readName, skipSpace_skipSpace]

theorem readValue_scalar {depth fuel : Nat} {cs rest : List Char} {c : Char}
    (begins : skipSpace cs = c :: rest) (text : c ≠ '"') (list : c ≠ '[') (object : c ≠ '\x7b') :
    readValue depth (fuel + 1) cs = readScalar (c :: rest) := by
  simp only [readValue, begins]
  split <;> simp_all

theorem isSpace_of_begins {c : Char} (first : c = '-' ∨ c.isDigit = true) : isSpace c = false := by
  cases space : isSpace c with
  | false => rfl
  | true =>
    simp only [isSpace, Bool.or_eq_true, beq_iff_eq] at space
    rcases first with rfl | digit
    · exact absurd space (by decide)
    · rcases space with ((rfl | rfl) | rfl) | rfl <;> exact absurd digit (by decide)

theorem ValueText.begins {depth : Nat} {front : List Char} {value : Json}
    (written : ValueText depth front value) :
    ∃ space c rest, Blank space ∧ isSpace c = false ∧ c ≠ ']' ∧ front = space ++ c :: rest := by
  cases written with
  | number blank written =>
    obtain ⟨c, rest, same, first⟩ := written.begins
    have bracket : c ≠ ']' := by rintro rfl; exact absurd first (by decide)
    exact ⟨_, c, rest, blank, isSpace_of_begins first, bracket, by rw [same]⟩
  | _ blank => exact ⟨_, _, _, blank, by decide, by decide, rfl⟩

theorem ValueText.length_pos {depth : Nat} {front : List Char} {value : Json}
    (written : ValueText depth front value) : 0 < front.length := by
  obtain ⟨space, c, rest, -, -, -, rfl⟩ := written.begins
  simp only [List.length_append, List.length_cons]
  omega

theorem ItemsText.begins {depth : Nat} {items : List Char} {values : List Json}
    (written : ItemsText depth items values) :
    ∃ space c rest, Blank space ∧ isSpace c = false ∧ c ≠ ']' ∧ items = space ++ c :: rest := by
  cases written with
  | last first =>
    obtain ⟨space, c, rest, blank, visible, other, rfl⟩ := first.begins
    exact ⟨space, c, _, blank, visible, other, List.append_assoc ..⟩
  | cons first =>
    obtain ⟨space, c, rest, blank, visible, other, rfl⟩ := first.begins
    exact ⟨space, c, _, blank, visible, other, List.append_assoc ..⟩

theorem NameText.begins {front : List Char} {name : String} (written : NameText front name) :
    ∃ space rest, Blank space ∧ front = space ++ '"' :: rest := by
  cases written with
  | name before => exact ⟨_, _, before, rfl⟩

theorem MembersText.begins {depth : Nat} {pairs : List Char} {members : List (String × Json)}
    (written : MembersText depth pairs members) :
    ∃ space rest, Blank space ∧ pairs = space ++ '"' :: rest := by
  cases written with
  | last named =>
    obtain ⟨space, rest, blank, rfl⟩ := named.begins
    exact ⟨space, _, blank, List.append_assoc ..⟩
  | cons named =>
    obtain ⟨space, rest, blank, rfl⟩ := named.begins
    exact ⟨space, _, blank, List.append_assoc ..⟩

section OneStep

variable {depth fuel : Nat} {space more : List Char}

theorem readValue_text {body : List Char} {s : String} (blank : Blank space)
    (text : TextBody body s) :
    readValue depth (fuel + 1) (space ++ '"' :: (body ++ more)) = some (.text s, more) := by
  simp [readValue, skipSpace_blank_cons blank, isSpace, readText_append text]

theorem readValue_emptyList {inner : List Char} (blank : Blank space) (hollow : Blank inner) :
    readValue (depth + 1) (fuel + 1) (space ++ '[' :: (inner ++ ']' :: more)) =
      some (.list [], more) := by
  simp [readValue, skipSpace_blank_cons blank, skipSpace_blank_cons hollow, isSpace]

theorem readValue_list {items : List Char} {values : List Json} (blank : Blank space)
    (inside : ItemsText depth items values)
    (read : readItems depth fuel (items ++ more) = some (values, more)) :
    readValue (depth + 1) (fuel + 1) (space ++ '[' :: (items ++ more)) =
      some (.list values, more) := by
  obtain ⟨inner, c, rest, hollow, visible, other, same⟩ := inside.begins
  have first : skipSpace (items ++ more) = c :: (rest ++ more) := by
    rw [same, List.append_assoc, List.cons_append, skipSpace_blank_cons hollow visible]
  rw [← readItems_skipSpace, first] at read
  simp [readValue, skipSpace_blank_cons blank, isSpace, first, other, read]

theorem readValue_emptyObject {inner : List Char} (blank : Blank space) (hollow : Blank inner) :
    readValue (depth + 1) (fuel + 1) (space ++ '\x7b' :: (inner ++ '\x7d' :: more)) =
      some (.object [], more) := by
  simp [readValue, skipSpace_blank_cons blank, skipSpace_blank_cons hollow, isSpace]

theorem readValue_object {pairs : List Char} {members : List (String × Json)} (blank : Blank space)
    (inside : MembersText depth pairs members)
    (read : readMembers depth fuel (pairs ++ more) = some (members, more)) :
    readValue (depth + 1) (fuel + 1) (space ++ '\x7b' :: (pairs ++ more)) =
      some (.object members, more) := by
  obtain ⟨inner, rest, hollow, same⟩ := inside.begins
  have first : skipSpace (pairs ++ more) = '"' :: (rest ++ more) := by
    rw [same, List.append_assoc, List.cons_append, skipSpace_blank_cons hollow (by decide)]
  rw [← readMembers_skipSpace, first] at read
  simp [readValue, skipSpace_blank_cons blank, isSpace, first, read]

theorem readValue_number {digits : List Char} {value : Json} (blank : Blank space)
    (written : NumberText digits value) (apart : Apart continuesNumber more) :
    readValue depth (fuel + 1) (space ++ (digits ++ more)) = some (value, more) := by
  obtain ⟨c, rest, same, first⟩ := written.begins
  have read := readScalar_append written apart
  rw [same, List.cons_append] at read ⊢
  have other : c ≠ '"' ∧ c ≠ '[' ∧ c ≠ '\x7b' := by
    refine ⟨?_, ?_, ?_⟩ <;> rintro rfl <;> exact absurd first (by decide)
  rw [readValue_scalar (skipSpace_blank_cons blank (isSpace_of_begins first) _) other.1 other.2.1
    other.2.2, read]

theorem readValue_null (blank : Blank space) :
    readValue depth (fuel + 1) (space ++ 'n' :: 'u' :: 'l' :: 'l' :: more) =
      some (.null, more) := by
  simp [readValue, skipSpace_blank_cons blank, isSpace, readScalar, readWord]

theorem readValue_true (blank : Blank space) :
    readValue depth (fuel + 1) (space ++ 't' :: 'r' :: 'u' :: 'e' :: more) =
      some (.boolean true, more) := by
  simp [readValue, skipSpace_blank_cons blank, isSpace, readScalar, readWord]

theorem readValue_false (blank : Blank space) :
    readValue depth (fuel + 1) (space ++ 'f' :: 'a' :: 'l' :: 's' :: 'e' :: more) =
      some (.boolean false, more) := by
  simp [readValue, skipSpace_blank_cons blank, isSpace, readScalar, readWord]

theorem readItems_last {item : List Char} {value : Json} (blank : Blank space)
    (read : readValue depth fuel (item ++ (space ++ ']' :: more)) =
      some (value, space ++ ']' :: more)) :
    readItems depth (fuel + 1) (item ++ (space ++ ']' :: more)) = some ([value], more) := by
  simp [readItems, read, skipSpace_blank_cons blank, isSpace]

theorem readItems_cons {item items : List Char} {value : Json} {values : List Json}
    (blank : Blank space)
    (read : readValue depth fuel (item ++ (space ++ ',' :: (items ++ more))) =
      some (value, space ++ ',' :: (items ++ more)))
    (rest : readItems depth fuel (items ++ more) = some (values, more)) :
    readItems depth (fuel + 1) (item ++ (space ++ ',' :: (items ++ more))) =
      some (value :: values, more) := by
  simp [readItems, read, skipSpace_blank_cons blank, isSpace, rest]

theorem readMembers_last {front item : List Char} {name : String} {value : Json}
    (named : NameText front name) (blank : Blank space)
    (read : readValue depth fuel (item ++ (space ++ '\x7d' :: more)) =
      some (value, space ++ '\x7d' :: more)) :
    readMembers depth (fuel + 1) (front ++ (item ++ (space ++ '\x7d' :: more))) =
      some ([(name, value)], more) := by
  simp [readMembers, readName_append named, read, skipSpace_blank_cons blank, isSpace]

theorem readMembers_cons {front item pairs : List Char} {name : String} {value : Json}
    {members : List (String × Json)} (named : NameText front name) (blank : Blank space)
    (read : readValue depth fuel (item ++ (space ++ ',' :: (pairs ++ more))) =
      some (value, space ++ ',' :: (pairs ++ more)))
    (rest : readMembers depth fuel (pairs ++ more) = some (members, more)) :
    readMembers depth (fuel + 1) (front ++ (item ++ (space ++ ',' :: (pairs ++ more)))) =
      some ((name, value) :: members, more) := by
  simp [readMembers, readName_append named, read, skipSpace_blank_cons blank, isSpace, rest]

end OneStep

theorem exists_fuel {fuel n : Nat} (enough : 2 * n ≤ fuel) (pos : 0 < n) :
    ∃ less, fuel = less + 1 :=
  ⟨fuel - 1, by omega⟩

mutual

theorem ValueText.reads {depth : Nat} {front : List Char} {value : Json}
    (written : ValueText depth front value) (fuel : Nat) (more : List Char)
    (enough : 2 * front.length ≤ fuel) (ends : EndsAt value more) :
    readValue depth fuel (front ++ more) = some (value, more) := by
  obtain ⟨fuel, rfl⟩ := exists_fuel enough written.length_pos
  -- What stands inside brackets is shorter by a character, which pays for two steps.
  cases written with
  | text blank text => simpa using readValue_text blank text
  | emptyList blank hollow => simpa using readValue_emptyList blank hollow
  | list blank inside =>
    simp only [List.length_append, List.length_cons] at enough
    have read := inside.reads fuel more (by omega)
    simpa using readValue_list blank inside read
  | emptyObject blank hollow => simpa using readValue_emptyObject blank hollow
  | object blank inside =>
    simp only [List.length_append, List.length_cons] at enough
    have read := inside.reads fuel more (by omega)
    simpa using readValue_object blank inside read
  | null blank => simpa using readValue_null blank
  | isTrue blank => simpa using readValue_true blank
  | isFalse blank => simpa using readValue_false blank
  | number blank written =>
    -- A number alone depends on what stands behind it.
    have apart : Apart continuesNumber more := by
      rcases written.isNumber with ⟨n, rfl⟩ | ⟨x, rfl⟩ <;> exact ends
    simpa using readValue_number blank written apart

theorem ItemsText.reads {depth : Nat} {items : List Char} {values : List Json}
    (written : ItemsText depth items values) (fuel : Nat) (more : List Char)
    (enough : 2 * items.length + 1 ≤ fuel) :
    readItems depth fuel (items ++ more) = some (values, more) := by
  cases fuel with
  | zero => omega
  | succ fuel =>
    cases written with
    | last first blank =>
      simp only [List.length_append, List.length_cons] at enough
      -- Behind an item stand blanks and a comma or bracket, so a number ends there.
      have read := first.reads fuel _ (by omega)
        (endsAt_of_apart (apart_blank_append (c := ']') blank (by decide) more))
      simpa using readItems_last blank read
    | @cons _ _ _ items _ _ first blank rest =>
      simp only [List.length_append, List.length_cons] at enough
      have read := first.reads fuel _ (by omega)
        (endsAt_of_apart (apart_blank_append (c := ',') blank (by decide) (items ++ more)))
      simpa using readItems_cons blank read (rest.reads fuel more (by omega))

theorem MembersText.reads {depth : Nat} {pairs : List Char} {members : List (String × Json)}
    (written : MembersText depth pairs members) (fuel : Nat) (more : List Char)
    (enough : 2 * pairs.length + 1 ≤ fuel) :
    readMembers depth fuel (pairs ++ more) = some (members, more) := by
  cases fuel with
  | zero => omega
  | succ fuel =>
    cases written with
    | last named first blank =>
      simp only [List.length_append, List.length_cons] at enough
      have read := first.reads fuel _ (by omega)
        (endsAt_of_apart (apart_blank_append (c := '\x7d') blank (by decide) more))
      simpa using readMembers_last named blank read
    | @cons _ _ _ _ pairs _ _ _ named first blank rest =>
      simp only [List.length_append, List.length_cons] at enough
      have read := first.reads fuel _ (by omega)
        (endsAt_of_apart (apart_blank_append (c := ',') blank (by decide) (pairs ++ more)))
      simpa using readMembers_cons named blank read (rest.reads fuel more (by omega))

end

theorem eq_of_readWord {word : String} {cs more : List Char} {value result : Json}
    (read : (readWord word cs).map (fun rest => (value, rest)) = some (result, more)) :
    result = value ∧ cs = word.toList ++ more := by
  obtain ⟨after, word, same⟩ := Option.map_eq_some_iff.1 read
  cases same
  simp only [readWord] at word
  split at word
  next same =>
    cases word
    have front := List.take_append_drop word.toList.length cs
    rw [eq_of_beq same] at front
    exact ⟨rfl, front.symm⟩
  next => cases word

theorem exists_scalarText {depth : Nat} {space cs more : List Char} {value : Json}
    (blank : Blank space) (read : readScalar cs = some (value, more)) :
    ∃ front, ValueText depth (space ++ front) value ∧ cs = front ++ more := by
  unfold readScalar at read
  split at read
  next rest =>
    obtain ⟨rfl, same⟩ := eq_of_readWord read
    exact ⟨_, .null blank, by rw [same]; rfl⟩
  next rest =>
    obtain ⟨rfl, same⟩ := eq_of_readWord read
    exact ⟨_, .isTrue blank, by rw [same]; rfl⟩
  next rest =>
    obtain ⟨rfl, same⟩ := eq_of_readWord read
    exact ⟨_, .isFalse blank, by rw [same]; rfl⟩
  next =>
    obtain ⟨digits, written, same⟩ := eq_append_of_readNumber read
    exact ⟨digits, .number blank written, same⟩

mutual

theorem exists_valueText {depth fuel : Nat} {cs more : List Char} {value : Json}
    (read : readValue depth fuel cs = some (value, more)) :
    ∃ front, ValueText depth front value ∧ cs = front ++ more := by
  obtain ⟨space, blank, same⟩ := exists_blank cs
  cases fuel with
  | zero => cases read
  | succ fuel =>
    unfold readValue at read
    split at read
    next rest quote =>
      obtain ⟨⟨s, after⟩, textRead, pair⟩ := Option.map_eq_some_iff.1 read
      cases pair
      obtain ⟨body, text, bodySame⟩ := exists_textBody textRead
      exact ⟨_, .text blank text, by rw [same, quote, bodySame]; simp⟩
    next rest bracket =>
      cases depth with
      | zero => cases read
      | succ depth =>
        obtain ⟨inner, hollow, innerSame⟩ := exists_blank rest
        rw [if_neg (by simp)] at read
        split at read
        next after closing =>
          cases read
          exact ⟨_, .emptyList blank hollow, by rw [same, bracket, innerSame, closing]; simp⟩
        next =>
          obtain ⟨⟨values, after⟩, itemsRead, pair⟩ := Option.map_eq_some_iff.1 read
          cases pair
          rw [readItems_skipSpace] at itemsRead
          obtain ⟨items, inside, itemsSame⟩ := exists_itemsText itemsRead
          exact ⟨_, .list blank inside, by rw [same, bracket, itemsSame]; simp⟩
    next rest brace =>
      cases depth with
      | zero => cases read
      | succ depth =>
        obtain ⟨inner, hollow, innerSame⟩ := exists_blank rest
        rw [if_neg (by simp)] at read
        split at read
        next after closing =>
          cases read
          exact ⟨_, .emptyObject blank hollow, by rw [same, brace, innerSame, closing]; simp⟩
        next =>
          obtain ⟨⟨members, after⟩, membersRead, pair⟩ := Option.map_eq_some_iff.1 read
          cases pair
          rw [readMembers_skipSpace] at membersRead
          obtain ⟨pairs, inside, pairsSame⟩ := exists_membersText membersRead
          exact ⟨_, .object blank inside, by rw [same, brace, pairsSame]; simp⟩
    next =>
      obtain ⟨front, written, scalar⟩ := exists_scalarText blank read
      exact ⟨_, written, by rw [same, scalar]; simp⟩

theorem exists_itemsText {depth fuel : Nat} {cs more : List Char} {values : List Json}
    (read : readItems depth fuel cs = some (values, more)) :
    ∃ front, ItemsText depth front values ∧ cs = front ++ more := by
  cases fuel with
  | zero => cases read
  | succ fuel =>
    unfold readItems at read
    split at read
    next => cases read
    next value afterValue valueRead =>
      obtain ⟨item, first, same⟩ := exists_valueText valueRead
      obtain ⟨space, blank, spaceSame⟩ := exists_blank afterValue
      split at read
      next rest comma =>
        obtain ⟨⟨others, after⟩, restRead, pair⟩ := Option.map_eq_some_iff.1 read
        cases pair
        obtain ⟨items, inside, itemsSame⟩ := exists_itemsText restRead
        exact ⟨_, .cons first blank inside, by rw [same, spaceSame, comma, itemsSame]; simp⟩
      next rest bracket =>
        cases read
        exact ⟨_, .last first blank, by rw [same, spaceSame, bracket]; simp⟩
      next => cases read

theorem exists_membersText {depth fuel : Nat} {cs more : List Char}
    {members : List (String × Json)} (read : readMembers depth fuel cs = some (members, more)) :
    ∃ front, MembersText depth front members ∧ cs = front ++ more := by
  cases fuel with
  | zero => cases read
  | succ fuel =>
    unfold readMembers at read
    split at read
    next => cases read
    next name valueText nameRead =>
      obtain ⟨front, named, nameSame⟩ := exists_nameText nameRead
      split at read
      next => cases read
      next value afterValue valueRead =>
        obtain ⟨item, first, same⟩ := exists_valueText valueRead
        obtain ⟨space, blank, spaceSame⟩ := exists_blank afterValue
        split at read
        next rest comma =>
          obtain ⟨⟨others, after⟩, restRead, pair⟩ := Option.map_eq_some_iff.1 read
          cases pair
          obtain ⟨pairs, inside, pairsSame⟩ := exists_membersText restRead
          exact ⟨_, .cons named first blank inside,
            by rw [nameSame, same, spaceSame, comma, pairsSame]; simp⟩
        next rest brace =>
          cases read
          exact ⟨_, .last named first blank, by rw [nameSame, same, spaceSame, brace]; simp⟩
        next => cases read

end

theorem readPart_append {depth : Nat} {front more : List Char} {value : Json}
    (written : ValueText depth front value) (ends : EndsAt value more) :
    readPart depth (front ++ more) = some (value, more) := by
  refine written.reads _ more ?_ ends
  simp only [fuelFor, List.length_append]
  omega

theorem readPart_eq_some_iff {depth : Nat} {text : List Char} {value : Json} :
    readPart depth text = some (value, []) ↔ ValueText depth text value := by
  constructor
  · intro read
    obtain ⟨front, written, same⟩ := exists_valueText read
    rw [List.append_nil] at same
    rwa [same]
  · intro written
    have read := readPart_append written (endsAt_of_apart (apart_nil continuesNumber))
    rwa [List.append_nil] at read

theorem length_skipSpace_le (cs : List Char) : (skipSpace cs).length ≤ cs.length :=
  List.length_dropWhile_le isSpace cs

theorem readPart_of_skipSpace {depth : Nat} {cs more : List Char} {value : Json}
    (read : readPart depth (skipSpace cs) = some (value, more)) (ends : EndsAt value more) :
    readPart depth cs = some (value, more) := by
  obtain ⟨front, written, same⟩ := exists_valueText read
  -- The fuel counts the blanks, too; without them there is still enough.
  have shorter := length_skipSpace_le cs
  rw [same, List.length_append] at shorter
  rw [readPart, ← readValue_skipSpace, same]
  exact written.reads _ more (by rw [fuelFor]; omega) ends

theorem ValueText.skipSpace {depth : Nat} {front : List Char} {value : Json}
    (written : ValueText depth front value) : ValueText depth (skipSpace front) value := by
  have read := readPart_eq_some_iff.2 written
  rw [readPart, ← readValue_skipSpace] at read
  obtain ⟨same, shorter, whole⟩ := exists_valueText read
  rwa [whole, List.append_nil]

end Leaderboard.Json
