import Leaderboard.Json.Reader
import Leaderboard.Proofs.Text.Trim

set_option autoImplicit false

namespace Leaderboard.Json

def Apart (kind : Char → Bool) (more : List Char) : Prop :=
  ∀ c, more.head? = some c → kind c = false

theorem apart_nil (kind : Char → Bool) : Apart kind [] := nofun

theorem apart_cons {kind : Char → Bool} {c : Char} {rest : List Char} :
    Apart kind (c :: rest) ↔ kind c = false := by
  simp [Apart]

theorem Apart.imp {kind other : Char → Bool} (weaker : ∀ c, other c = true → kind c = true)
    {more : List Char} (apart : Apart kind more) : Apart other more := by
  intro c first
  cases holds : other c with
  | false => rfl
  | true =>
    have clash := apart c first
    rw [weaker c holds] at clash
    cases clash

theorem takeWhile_append {kind : Char → Bool} {front more : List Char}
    (inside : ∀ c ∈ front, kind c = true) (apart : Apart kind more) :
    (front ++ more).takeWhile kind = front := by
  rw [List.takeWhile_append_of_pos inside]
  cases more with
  | nil => simp
  | cons c rest => simp [apart_cons.1 apart]

def continuesNumber (c : Char) : Bool := c.isDigit || c == '.' || c == 'e' || c == 'E'

structure Digits (ds : List Char) : Prop where
  nonempty : ds ≠ []
  digits : ∀ c ∈ ds, c.isDigit = true

structure WholeText (ds : List Char) : Prop extends Digits ds where
  leading : ds = ['0'] ∨ ds.head? ≠ some '0'

inductive PlacesText : List Char → Option (List Char) → Prop
  | none : PlacesText [] none
  | some {ds : List Char} (digits : Digits ds) : PlacesText ('.' :: ds) (some ds)

inductive SignText : List Char → Bool → Prop
  | none : SignText [] false
  | plus : SignText ['+'] false
  | minus : SignText ['-'] true

inductive ExponentText : List Char → Option Int → Prop
  | none : ExponentText [] none
  | some {mark : Char} {sign ds : List Char} {negative : Bool}
    (marked : mark = 'e' ∨ mark = 'E') (signed : SignText sign negative) (digits : Digits ds) :
    ExponentText (mark :: (sign ++ ds))
      (some (if negative then -(Decimal.natOfDigits ds : Int) else Decimal.natOfDigits ds))

inductive NumberText : List Char → Json → Prop
  | parts {negative : Bool} {whole placesText exponentText : List Char}
    {places : Option (List Char)} {exponent : Option Int} {number : Json}
    (wholeText : WholeText whole) (placed : PlacesText placesText places)
    (raised : ExponentText exponentText exponent)
    (value : numberOf negative whole places exponent = some number) :
    NumberText ((if negative then ['-'] else []) ++ (whole ++ (placesText ++ exponentText))) number

theorem readDigits_append {ds more : List Char} (digits : Digits ds)
    (apart : Apart Char.isDigit more) : readDigits (ds ++ more) = some (ds, more) := by
  have filled : ds.isEmpty = false := by simpa using digits.nonempty
  simp only [readDigits, takeWhile_append digits.digits apart,
    Text.dropWhile_padded digits.digits apart, filled, Bool.false_eq_true, if_false]

theorem eq_append_of_readDigits {cs ds more : List Char} (read : readDigits cs = some (ds, more)) :
    Digits ds ∧ cs = ds ++ more ∧ Apart Char.isDigit more := by
  simp only [readDigits] at read
  split at read
  · cases read
  next filled =>
    cases read
    refine ⟨⟨by simpa using filled, fun c inside => List.mem_takeWhile_imp inside⟩,
      List.takeWhile_append_dropWhile.symm, ?_⟩
    intro c first
    have stopped := List.head?_dropWhile_not Char.isDigit cs
    rw [first] at stopped
    exact stopped

theorem readWhole_append {ds more : List Char} (whole : WholeText ds)
    (apart : Apart Char.isDigit more) : readWhole (ds ++ more) = some (ds, more) := by
  rcases whole.leading with rfl | leading
  · cases more with
    | nil => rfl
    | cons c rest =>
      have other := apart_cons.1 apart
      simp [readWhole, other]
  · have first : ∀ rest, ds ++ more ≠ '0' :: rest := by
      intro rest same
      cases ds with
      | nil => exact whole.nonempty rfl
      | cons d others =>
        cases same
        exact leading rfl
    rw [readWhole.eq_3 _ first]
    exact readDigits_append whole.toDigits apart

theorem eq_append_of_readWhole {cs ds more : List Char} (read : readWhole cs = some (ds, more)) :
    WholeText ds ∧ cs = ds ++ more := by
  unfold readWhole at read
  split at read
  next rest =>
    have zero : WholeText ['0'] := ⟨⟨by simp, by simp⟩, .inl rfl⟩
    split at read
    · split at read
      · cases read
      · cases read
        exact ⟨zero, rfl⟩
    · cases read
      exact ⟨zero, rfl⟩
  next other =>
    obtain ⟨digits, same, -⟩ := eq_append_of_readDigits read
    refine ⟨⟨digits, .inr fun leading => ?_⟩, same⟩
    obtain ⟨rest, begins⟩ : ∃ rest, ds = '0' :: rest := by
      cases ds with
      | nil => cases leading
      | cons d rest =>
        cases leading
        exact ⟨rest, rfl⟩
    rw [begins] at same
    exact other _ same

theorem readPlaces_append {text more : List Char} {places : Option (List Char)}
    (placed : PlacesText text places)
    (apart : Apart (fun c => c.isDigit || c == '.') more) :
    readPlaces (text ++ more) = some (places, more) := by
  cases placed with
  | none =>
    have point : ∀ rest, more ≠ '.' :: rest := by
      rintro rest rfl
      exact absurd (apart_cons.1 apart) (by decide)
    exact readPlaces.eq_2 more point
  | some digits =>
    have undigited : Apart Char.isDigit more := apart.imp fun c digit => by simp [digit]
    simp [readPlaces, readDigits_append digits undigited]

theorem eq_append_of_readPlaces {cs more : List Char} {places : Option (List Char)}
    (read : readPlaces cs = some (places, more)) :
    ∃ text, PlacesText text places ∧ cs = text ++ more := by
  unfold readPlaces at read
  split at read
  next rest =>
    obtain ⟨⟨ds, after⟩, digitsRead, same⟩ := Option.map_eq_some_iff.1 read
    cases same
    obtain ⟨digits, same, -⟩ := eq_append_of_readDigits digitsRead
    exact ⟨'.' :: ds, .some digits, by rw [same]; rfl⟩
  next =>
    cases read
    exact ⟨[], .none, rfl⟩

theorem splitSign_append {sign ds : List Char} {negative : Bool} (signed : SignText sign negative)
    (digits : Digits ds) (more : List Char) :
    Decimal.splitSign (sign ++ (ds ++ more)) = (negative, ds ++ more) := by
  cases signed with
  | none =>
    cases ds with
    | nil => exact absurd rfl digits.nonempty
    | cons d rest =>
      have digit := digits.digits d List.mem_cons_self
      have minus : d ≠ '-' := by rintro rfl; exact absurd digit (by decide)
      have plus : d ≠ '+' := by rintro rfl; exact absurd digit (by decide)
      simp [Decimal.splitSign, minus, plus]
  | plus => rfl
  | minus => rfl

theorem signText_splitSign (cs : List Char) :
    ∃ sign, SignText sign (Decimal.splitSign cs).1 ∧ cs = sign ++ (Decimal.splitSign cs).2 := by
  unfold Decimal.splitSign
  split
  next => exact ⟨['-'], .minus, rfl⟩
  next => exact ⟨['+'], .plus, rfl⟩
  next => exact ⟨[], .none, rfl⟩

theorem readExponent_append {text more : List Char} {exponent : Option Int}
    (raised : ExponentText text exponent)
    (apart : Apart (fun c => c.isDigit || c == 'e' || c == 'E') more) :
    readExponent (text ++ more) = some (exponent, more) := by
  cases raised with
  | none =>
    cases more with
    | nil => rfl
    | cons c rest =>
      have other := apart_cons.1 apart
      simp only [Bool.or_eq_false_iff] at other
      simp [readExponent, other.1.2, other.2]
  | some marked signed digits =>
    have undigited : Apart Char.isDigit more := apart.imp fun c digit => by simp [digit]
    simp [readExponent, marked, splitSign_append signed digits,
      readDigits_append digits undigited]

theorem eq_append_of_readExponent {cs more : List Char} {exponent : Option Int}
    (read : readExponent cs = some (exponent, more)) :
    ∃ text, ExponentText text exponent ∧ cs = text ++ more := by
  cases cs with
  | nil =>
    cases read
    exact ⟨[], .none, rfl⟩
  | cons c rest =>
    by_cases marked : c = 'e' ∨ c = 'E'
    · have mark : (c == 'e' || c == 'E') = true := by simpa using marked
      obtain ⟨sign, signed, split⟩ := signText_splitSign rest
      simp only [readExponent, mark, if_true] at read
      obtain ⟨⟨ds, after⟩, digitsRead, same⟩ := Option.map_eq_some_iff.1 read
      cases same
      obtain ⟨digits, same, -⟩ := eq_append_of_readDigits digitsRead
      refine ⟨c :: (sign ++ ds), .some marked signed digits, ?_⟩
      rw [split, same]
      simp
    · have mark : (c == 'e' || c == 'E') = false := by simpa using marked
      simp only [readExponent, mark] at read
      cases read
      exact ⟨[], .none, rfl⟩

theorem WholeText.head_ne_minus {whole : List Char} (text : WholeText whole) (more : List Char) :
    ∀ rest, whole ++ more ≠ '-' :: rest := by
  intro rest same
  cases whole with
  | nil => exact text.nonempty rfl
  | cons d others =>
    cases same
    exact absurd (text.digits '-' List.mem_cons_self) (by decide)

theorem PlacesText.apart_isDigit {text more : List Char} {places : Option (List Char)}
    (placed : PlacesText text places) (apart : Apart Char.isDigit more) :
    Apart Char.isDigit (text ++ more) := by
  cases placed with
  | none => exact apart
  | some => exact apart_cons.2 (by decide)

theorem ExponentText.apart {text more : List Char} {exponent : Option Int} {kind : Char → Bool}
    (raised : ExponentText text exponent) (small : kind 'e' = false) (capital : kind 'E' = false)
    (apart : Apart kind more) : Apart kind (text ++ more) := by
  cases raised with
  | none => exact apart
  | some marked =>
    rcases marked with rfl | rfl
    · exact apart_cons.2 small
    · exact apart_cons.2 capital

def readMagnitude (negative : Bool) (cs : List Char) : Option (Json × List Char) := do
  let (whole, afterWhole) ← readWhole cs
  let (places, afterPlaces) ← readPlaces afterWhole
  let (exponent, rest) ← readExponent afterPlaces
  let number ← numberOf negative whole places exponent
  return (number, rest)

theorem readNumber_minus (cs : List Char) : readNumber ('-' :: cs) = readMagnitude true cs := rfl

theorem readNumber_unsigned {cs : List Char} (first : ∀ rest, cs ≠ '-' :: rest) :
    readNumber cs = readMagnitude false cs := by
  unfold readNumber
  split
  next negative unsigned split =>
    split at split
    next rest => exact absurd rfl (first rest)
    next =>
      cases split
      rfl

theorem readMagnitude_append {negative : Bool} {whole placesText exponentText more : List Char}
    {places : Option (List Char)} {exponent : Option Int} {number : Json}
    (wholeText : WholeText whole) (placed : PlacesText placesText places)
    (raised : ExponentText exponentText exponent)
    (value : numberOf negative whole places exponent = some number)
    (apart : Apart continuesNumber more) :
    readMagnitude negative (whole ++ (placesText ++ (exponentText ++ more))) =
      some (number, more) := by
  -- Each part ends at the first character that neither it nor a later part can take.
  have atExponent : Apart (fun c => c.isDigit || c == 'e' || c == 'E') more :=
    apart.imp fun c _ => by grind [continuesNumber]
  have atPlaces : Apart (fun c => c.isDigit || c == '.') (exponentText ++ more) :=
    raised.apart (by decide) (by decide) (apart.imp fun c _ => by grind [continuesNumber])
  have atDigits : Apart Char.isDigit (placesText ++ (exponentText ++ more)) :=
    placed.apart_isDigit (atPlaces.imp fun c digit => by simp [digit])
  simp [readMagnitude, readWhole_append wholeText atDigits, readPlaces_append placed atPlaces,
    readExponent_append raised atExponent, value]

theorem readNumber_append {text more : List Char} {number : Json} (written : NumberText text number)
    (apart : Apart continuesNumber more) : readNumber (text ++ more) = some (number, more) := by
  cases written with
  | @parts negative whole placesText exponentText places exponent _ wholeText placed raised value =>
    have read := readMagnitude_append wholeText placed raised value apart
    simp only [List.append_assoc]
    cases negative with
    | true => exact (readNumber_minus _).trans read
    | false =>
      exact (readNumber_unsigned (wholeText.head_ne_minus _)).trans read

theorem eq_append_of_readMagnitude {negative : Bool} {cs more : List Char} {number : Json}
    (read : readMagnitude negative cs = some (number, more)) :
    ∃ text, NumberText ((if negative then ['-'] else []) ++ text) number ∧ cs = text ++ more := by
  simp only [readMagnitude, Option.bind_eq_bind, Option.bind_eq_some_iff] at read
  obtain ⟨⟨whole, afterWhole⟩, wholeRead, ⟨places, afterPlaces⟩, placesRead, ⟨exponent, rest⟩,
    exponentRead, value, valued, same⟩ := read
  cases same
  dsimp only at placesRead exponentRead valued
  obtain ⟨wholeText, wholeSame⟩ := eq_append_of_readWhole wholeRead
  obtain ⟨placesText, placed, placesSame⟩ := eq_append_of_readPlaces placesRead
  obtain ⟨exponentText, raised, exponentSame⟩ := eq_append_of_readExponent exponentRead
  refine ⟨_, .parts wholeText placed raised valued, ?_⟩
  rw [wholeSame, placesSame, exponentSame]
  simp

theorem eq_append_of_readNumber {cs more : List Char} {number : Json}
    (read : readNumber cs = some (number, more)) :
    ∃ text, NumberText text number ∧ cs = text ++ more := by
  by_cases minus : ∃ rest, cs = '-' :: rest
  · obtain ⟨rest, rfl⟩ := minus
    obtain ⟨text, written, same⟩ :=
      eq_append_of_readMagnitude ((readNumber_minus rest).symm.trans read)
    exact ⟨'-' :: text, written, by simp [same]⟩
  · have first : ∀ rest, cs ≠ '-' :: rest := fun rest same => minus ⟨rest, same⟩
    obtain ⟨text, written, same⟩ :=
      eq_append_of_readMagnitude ((readNumber_unsigned first).symm.trans read)
    exact ⟨text, written, same⟩

end Leaderboard.Json
