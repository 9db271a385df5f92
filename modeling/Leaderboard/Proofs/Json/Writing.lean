import Leaderboard.Proofs.Json.Grammar
import Leaderboard.Proofs.Json.NumberWriting

set_option autoImplicit false

namespace Leaderboard.Json

theorem hexUnit?_controlDigits : ∀ n < 0x20,
    hexUnit? '0' '0' (Nat.digitChar (n / 16)) (Nat.digitChar (n % 16)) = some n := by
  decide

def StandsFor (piece : Piece) (c : Char) : Prop :=
  ∀ pieces, joinPieces (piece :: pieces) = (joinPieces pieces).map (c :: ·)

theorem standsFor_char (c : Char) : StandsFor (.char c) c := fun pieces => by
  rw [joinPieces]

theorem standsFor_control {n : Nat} (control : n < 0x20) : StandsFor (.unit n) (Char.ofNat n) := by
  have high : isHighSurrogate n = false := by
    simp only [isHighSurrogate, Bool.and_eq_false_iff, decide_eq_false_iff_not]
    omega
  have low : isLowSurrogate n = false := by
    simp only [isLowSurrogate, Bool.and_eq_false_iff, decide_eq_false_iff_not]
    omega
  intro pieces
  cases pieces with
  | nil => simp [joinPieces, high, low]
  | cons piece rest => cases piece <;> simp [joinPieces, high, low]

def Adds (text : List Char) (piece : Piece) : Prop :=
  ∀ front pieces, PiecesText front pieces → PiecesText (text ++ front) (piece :: pieces)

theorem adds_escape {letter c : Char} (known : simpleEscape? letter = some c) :
    Adds ['\\', letter] (.char c) := fun _ _ rest => .escape known rest

theorem adds_control {n : Nat} (control : n < 0x20) :
    Adds (['\\', 'u', '0', '0'] ++ controlDigits n) (.unit n) :=
  fun _ _ rest => .unit (hexUnit?_controlDigits n control) rest

theorem adds_plain {c : Char} (quote : c ≠ '"') (backslash : c ≠ '\\')
    (visible : 0x20 ≤ c.toNat) : Adds [c] (.char c) :=
  fun _ _ rest => .plain quote backslash visible rest

theorem char_eq_of_toNat {c : Char} {n : Nat} (same : c.toNat = n) : c = Char.ofNat n := by
  rw [← same, Char.ofNat_toNat]

theorem exists_piece (c : Char) : ∃ piece, StandsFor piece c ∧ Adds (escapedChar c) piece := by
  by_cases quote : c = '"'
  · subst quote
    exact ⟨_, standsFor_char _, adds_escape rfl⟩
  by_cases backslash : c = '\\'
  · subst backslash
    exact ⟨_, standsFor_char _, adds_escape rfl⟩
  by_cases newline : c = '\n'
  · subst newline
    exact ⟨_, standsFor_char _, adds_escape rfl⟩
  by_cases carriage : c = '\r'
  · subst carriage
    exact ⟨_, standsFor_char _, adds_escape rfl⟩
  by_cases tab : c = '\t'
  · subst tab
    exact ⟨_, standsFor_char _, adds_escape rfl⟩
  -- Backspace and form feed have no literal of their own.
  by_cases backspace : c.toNat = 8
  · obtain rfl := char_eq_of_toNat backspace
    exact ⟨_, standsFor_char _, adds_escape (rfl : simpleEscape? 'b' = _)⟩
  by_cases feed : c.toNat = 12
  · obtain rfl := char_eq_of_toNat feed
    exact ⟨_, standsFor_char _, adds_escape (rfl : simpleEscape? 'f' = _)⟩
  by_cases control : c.toNat < 0x20
  · refine ⟨.unit c.toNat, ?_, ?_⟩
    · simpa using standsFor_control control
    · simpa [escapedChar, quote, backslash, newline, carriage, tab, backspace, feed, control] using
        adds_control control
  · refine ⟨.char c, standsFor_char c, ?_⟩
    simpa [escapedChar, quote, backslash, newline, carriage, tab, backspace, feed, control] using
      adds_plain quote backslash (not_lt.1 control)

theorem exists_pieces_of_escaped (cs : List Char) :
    ∃ pieces, PiecesText (cs.flatMap escapedChar ++ ['"']) pieces ∧
      joinPieces pieces = some cs := by
  induction cs with
  | nil => exact ⟨[], .close, rfl⟩
  | cons c rest ih =>
    obtain ⟨pieces, written, joined⟩ := ih
    obtain ⟨piece, stands, adds⟩ := exists_piece c
    refine ⟨piece :: pieces, ?_, ?_⟩
    · rw [List.flatMap_cons, List.append_assoc]
      exact adds _ _ written
    · rw [stands, joined]
      rfl

theorem textBody_escaped (s : String) : TextBody (s.toList.flatMap escapedChar ++ ['"']) s := by
  obtain ⟨pieces, written, joined⟩ := exists_pieces_of_escaped s.toList
  have text := TextBody.pieces written joined
  rwa [String.ofList_toList] at text

theorem nameText_written (name : String) : NameText (writeText name ++ [':']) name := by
  have text := NameText.name blank_nil (textBody_escaped name) blank_nil
  simpa [writeText] using text

mutual

inductive Plain : Nat → Json → Prop
  | null {depth : Nat} : Plain depth .null
  | boolean {depth : Nat} (b : Bool) : Plain depth (.boolean b)
  | integer {depth : Nat} {n : Int} (least : -2 ^ 63 ≤ n) (greatest : n < 2 ^ 64) :
    Plain depth (.integer n)
  | real {depth : Nat} {x : Float} (finite : Decimal.isFinite x = true) : Plain depth (.real x)
  | text {depth : Nat} (s : String) : Plain depth (.text s)
  | list {depth : Nat} {items : List Json} (plain : PlainItems depth items) :
    Plain (depth + 1) (.list items)
  | object {depth : Nat} {members : List (String × Json)} (plain : PlainMembers depth members) :
    Plain (depth + 1) (.object members)

inductive PlainItems : Nat → List Json → Prop
  | nil {depth : Nat} : PlainItems depth []
  | cons {depth : Nat} {item : Json} {rest : List Json} (first : Plain depth item)
    (others : PlainItems depth rest) : PlainItems depth (item :: rest)

inductive PlainMembers : Nat → List (String × Json) → Prop
  | nil {depth : Nat} : PlainMembers depth []
  | cons {depth : Nat} {member : String × Json} {rest : List (String × Json)}
    (first : Plain depth member.2) (others : PlainMembers depth rest) :
    PlainMembers depth (member :: rest)

end

mutual

theorem Plain.valueText {depth : Nat} {j : Json} (plain : Plain depth j) :
    ValueText depth (write j) j := by
  cases plain with
  | null => exact .null blank_nil
  | boolean b =>
    cases b with
    | true => exact .isTrue blank_nil
    | false => exact .isFalse blank_nil
  | integer least greatest => exact .number blank_nil (numberText_integer least greatest)
  | real finite => exact .number blank_nil (numberText_realText finite)
  | text s =>
    have text : ValueText depth ([] ++ '"' :: (s.toList.flatMap escapedChar ++ ['"'])) (.text s) :=
      .text blank_nil (textBody_escaped s)
    exact text
  | @list depth items inside =>
    cases items with
    | nil => exact .emptyList blank_nil blank_nil
    | cons item rest => exact .list blank_nil inside.itemsText
  | @object depth members inside =>
    cases members with
    | nil => exact .emptyObject blank_nil blank_nil
    | cons member rest => exact .object blank_nil inside.membersText

theorem PlainItems.itemsText {depth : Nat} {item : Json} {rest : List Json}
    (plain : PlainItems depth (item :: rest)) :
    ItemsText depth (writeItems (item :: rest) ++ [']']) (item :: rest) := by
  cases plain with
  | cons first others =>
    cases rest with
    | nil => exact .last first.valueText blank_nil
    | cons next later =>
      have text := ItemsText.cons first.valueText blank_nil others.itemsText
      simpa [writeItems] using text

theorem PlainMembers.membersText {depth : Nat} {member : String × Json}
    {rest : List (String × Json)} (plain : PlainMembers depth (member :: rest)) :
    MembersText depth (writeMembers (member :: rest) ++ ['\x7d']) (member :: rest) := by
  cases plain with
  | cons first others =>
    obtain ⟨name, value⟩ := member
    cases rest with
    | nil =>
      have text := MembersText.last (nameText_written name) first.valueText blank_nil
      simpa [writeMembers] using text
    | cons next later =>
      have text := MembersText.cons (nameText_written name) first.valueText blank_nil
        others.membersText
      simpa [writeMembers] using text

end

theorem NumberText.plain {text : List Char} {value : Json} (written : NumberText text value)
    (depth : Nat) : Plain depth value := by
  have real {x : Float} {value : Json}
      (read : (if Decimal.isFinite x then some (.real x) else none) = some value) :
      Plain depth value := by
    split at read
    next finite =>
      cases read
      exact .real finite
    next => cases read
  cases written with
  | parts _ _ _ value =>
    simp only [numberOf] at value
    split at value
    next =>
      split at value
      next =>
        split at value
        next => exact real value
        next fits =>
          cases value
          simp only [Bool.or_eq_true, decide_eq_true_eq, beq_iff_eq, not_or] at fits
          rw [Decimal.twoTo_eq] at fits
          exact .integer (by omega) (by omega)
      next =>
        split at value
        next fits =>
          cases value
          rw [Decimal.twoTo_eq] at fits
          exact .integer (by omega) (by omega)
        next => exact real value
    next => exact real value

mutual

theorem ValueText.plain {depth : Nat} {front : List Char} {value : Json}
    (written : ValueText depth front value) : Plain depth value := by
  cases written with
  | text => exact .text _
  | emptyList => exact .list .nil
  | list _ inside => exact .list inside.plain
  | emptyObject => exact .object .nil
  | object _ inside => exact .object inside.plain
  | null => exact .null
  | isTrue => exact .boolean true
  | isFalse => exact .boolean false
  | number _ written => exact written.plain depth

theorem ItemsText.plain {depth : Nat} {items : List Char} {values : List Json}
    (written : ItemsText depth items values) : PlainItems depth values := by
  cases written with
  | last first => exact .cons first.plain .nil
  | cons first _ rest => exact .cons first.plain rest.plain

theorem MembersText.plain {depth : Nat} {pairs : List Char} {members : List (String × Json)}
    (written : MembersText depth pairs members) : PlainMembers depth members := by
  cases written with
  | last _ first => exact .cons first.plain .nil
  | cons _ first _ rest => exact .cons first.plain rest.plain

end

theorem plainMembers_iff {depth : Nat} {members : List (String × Json)} :
    PlainMembers depth members ↔ ∀ m ∈ members, Plain depth m.2 := by
  induction members with
  | nil => exact ⟨fun _ => nofun, fun _ => .nil⟩
  | cons member rest ih =>
    rw [List.forall_mem_cons, ← ih]
    exact ⟨fun (.cons first others) => ⟨first, others⟩, fun ⟨first, others⟩ => .cons first others⟩

theorem plainItems_iff {depth : Nat} {items : List Json} :
    PlainItems depth items ↔ ∀ item ∈ items, Plain depth item := by
  induction items with
  | nil => exact ⟨fun _ => nofun, fun _ => .nil⟩
  | cons item rest ih =>
    rw [List.forall_mem_cons, ← ih]
    exact ⟨fun (.cons first others) => ⟨first, others⟩, fun ⟨first, others⟩ => .cons first others⟩

theorem read?_write_iff {j : Json} : read? (write j) = some j ↔ Plain maxDepth j := by
  constructor
  · intro read
    unfold read? at read
    split at read
    next value rest part =>
      obtain ⟨front, written, -⟩ := exists_valueText part
      split at read
      next =>
        cases read
        exact written.plain
      next => cases read
    next => cases read
  · intro plain
    have read := readPart_eq_some_iff.2 plain.valueText
    simp [read?, read, skipSpace]

end Leaderboard.Json
