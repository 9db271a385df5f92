import Leaderboard.Proofs.Yaml.Scalars

set_option autoImplicit false

namespace Leaderboard.Yaml

section Written

theorem endsWith_break (scalar : String) :
    scalar.endsWith "\n" = true ↔ scalar.toList.getLast? = some '\n' := by
  have same : scalar.endsWith "\n" = scalar.toSlice.endsWith "\n" := rfl
  rw [same, String.Slice.endsWith_string_iff, String.copy_toSlice, List.getLast?_eq_some_iff]
  exact ⟨fun ⟨front, whole⟩ => ⟨front, whole.symm⟩, fun ⟨front, whole⟩ => ⟨front, whole.symm⟩⟩

theorem toList_closeLine (scalar : String) :
    (closeLine scalar).toList =
      if scalar.toList.getLast? = some '\n' then scalar.toList else scalar.toList ++ ['\n'] := by
  simp only [closeLine, endsWith_break]
  split
  · rfl
  · rw [String.toList_append]
    rfl

variable {indent : Nat} {text : String}

theorem toList_memberValue_of_open {line : Line}
    (written : (textScalar (indent + 2) text).toList = line) (goesOn : line.getLast? ≠ some '\n') :
    (memberValue indent (.text text)).toList = ' ' :: line ++ ['\n'] := by
  rw [memberValue, String.toList_append, toList_closeLine, written, if_neg goesOn]
  rfl

end Written

theorem unbroken_of_whole {line : Line} (whole : ∀ c ∈ line, isBreak c = false) :
    Unbroken line := by
  intro c inside
  have plain := whole c inside
  constructor <;> rintro rfl <;> exact absurd plain (by decide)

def Shown (cs : List Char) : Prop := ∀ c ∈ cs, isPrintable c = true ∨ isBreak c = true

theorem Shown.goesOn {cs : List Char} (shown : Shown cs) : '\x00' ∉ cs := fun inside =>
  absurd (shown _ inside) (by decide)

theorem shown_of_special {cs : List Char}
    (special : cs.any (fun c => !isPrintable c && !isBreak c) = false) : Shown cs := by
  intro c inside
  have plain := List.any_eq_false.1 special c inside
  simpa [Classical.or_iff_not_imp_left] using plain

theorem plain_of_styleOf {text : String} (style : styleOf text = .plain) :
    Shown text.toList ∧ (∀ c ∈ text.toList, isBreak c = false) ∧ text ≠ "" ∧
      hasIndicators text.toList = false ∧
      text.toList.head? ≠ some ' ' ∧ text.toList.getLast? ≠ some ' ' := by
  have held : text ≠ "" := by
    rintro rfl
    exact absurd style (by decide)
  revert style
  fun_cases styleOf text with
  | case3 cs isSpace special anyBreak edge plainHolds _ holds =>
    intro _
    simp only [plainHolds, edge, anyBreak, Bool.and_eq_true, Bool.not_eq_true'] at holds
    obtain ⟨-, ⟨⟨⟨first, last⟩, whole⟩, unmarked⟩, clear⟩ := holds
    have apart {c : Option Char} (inner : c.any (fun c => isSpace c || isBreak c) = false) :
        c ≠ some ' ' := by
      rintro rfl
      cases inner
    have unbroken : ∀ c ∈ text.toList, isBreak c = false := by simpa using whole
    exact ⟨shown_of_special unmarked, unbroken, held, clear, apart first, apart last⟩
  | _ => nofun

theorem single_of_styleOf {text : String} (style : styleOf text = .single) :
    Shown text.toList ∧ '\n' ∉ text.toList := by
  revert style
  fun_cases styleOf text with
  | case4 cs isSpace special spaceBreak breakSpace anyBreak edge plainHolds singleHolds feed _
      holds =>
    intro _
    simp only [singleHolds, Bool.and_eq_true, Bool.not_eq_true'] at holds
    exact ⟨shown_of_special holds.2, by simpa using feed⟩
  | _ => nofun

theorem literal_of_styleOf {text : String} (style : styleOf text = .literal) :
    Shown text.toList ∧ '\n' ∈ text.toList ∧ text.toList.getLast? ≠ some ' ' ∧
      hasAdjacent (· == ' ') isBreak text.toList = false := by
  revert style
  fun_cases styleOf text with
  | case1 cs isSpace special spaceBreak blockHolds feed holds =>
    intro _
    simp only [blockHolds, Bool.and_eq_true, Bool.not_eq_true'] at holds
    obtain ⟨⟨last, between⟩, unmarked⟩ := holds
    refine ⟨shown_of_special unmarked, by simpa using feed, fun same => ?_, between⟩
    rw [same] at last
    cases last
  | _ => nofun

theorem atGap_of_isSpaceOrEnd {line : Line} (goesOn : isSpaceOrEnd line = false) :
    atGap line = false := by
  cases line with
  | nil => cases goesOn
  | cons c rest =>
    simp only [isSpaceOrEnd, Bool.or_eq_false_iff] at goesOn
    simp [atGap, isGap, goesOn]

theorem seamless_of_breaksPlain {c : Char} {rest : List Char} (whole : breaksPlain c rest = false)
    (first : c = ':' → atGap rest = false) : Seamless (c :: rest) := by
  induction rest generalizing c with
  | nil =>
    constructor
    case colons =>
      intro before after same
      cases before with
      | nil => simp_all
      | cons _ _ => simp at same
    case hashes =>
      intro before d after same
      cases before with
      | nil => simp_all
      | cons _ _ => simp at same
  | cons d rest ih =>
    simp only [breaksPlain, Bool.or_eq_false_iff] at whole
    obtain ⟨⟨colon, hash⟩, later⟩ := whole
    have seamless : Seamless (d :: rest) := by
      refine ih later ?_
      rintro rfl
      exact atGap_of_isSpaceOrEnd (by simpa using colon)
    constructor
    case colons =>
      intro before after same
      cases before with
      | nil =>
        cases same
        exact first rfl
      | cons e before => exact seamless.colons before after (List.cons.inj same).2
    case hashes =>
      intro before e after same
      cases before with
      | nil =>
        cases same
        simp_all [isGap]
      | cons e before => exact seamless.hashes before _ after (List.cons.inj same).2

theorem not_isGap {c : Char} (shown : isPrintable c = true ∨ isBreak c = true) (space : c ≠ ' ') :
    isGap c = false := by
  have tab : c ≠ '\t' := by
    rintro rfl
    exact absurd shown (by decide)
  simp [isGap, space, tab]

theorem bare_of_styleOf {text : String} (style : styleOf text = .plain) : Bare text.toList := by
  obtain ⟨shown, whole, held, clear, first, last⟩ := plain_of_styleOf style
  obtain ⟨c, rest, same⟩ : ∃ c rest, text.toList = c :: rest :=
    List.exists_cons_of_ne_nil fun empty => held (String.toList_eq_nil_iff.1 empty)
  rw [same] at shown clear first last ⊢
  simp only [hasIndicators, Bool.or_eq_false_iff] at clear
  obtain ⟨⟨⟨⟨leading, mark⟩, -⟩, -⟩, inner⟩ := clear
  have goesOn (marked : c = '?' ∨ c = ':' ∨ c = '-') : atGap rest = false := by
    refine atGap_of_isSpaceOrEnd ?_
    rcases marked with rfl | rfl | rfl <;> simpa using mark
  constructor
  case starts =>
    have reserved : isReserved c = false := leading
    have gap := not_isGap (shown c List.mem_cons_self) (fun space => first (by rw [space]; rfl))
    rw [startsPlain]
    split
    next marked =>
      rw [endsMark_block, goesOn]
      · rfl
      · simpa only [Bool.or_eq_true, beq_iff_eq, or_comm, or_assoc, or_left_comm] using marked
    next => simp [reserved, gap]
  case ends =>
    intro d final
    exact not_isGap (shown d (List.mem_of_getLast? final)) fun space => last (space ▸ final)
  case seamless => exact seamless_of_breaksPlain inner fun colon => goesOn (.inr (.inl colon))

theorem readsBack_plain {indent : Nat} {text : String} (style : styleOf text = .plain)
    (means : resolve? text = some (.text text)) : ReadsBack 1 indent (.text text) := by
  obtain ⟨shown, whole, -⟩ := plain_of_styleOf style
  have written : (textScalar (indent + 2) text).toList = text.toList := by
    simp only [textScalar, style]
  have unbroken := unbroken_of_whole whole
  refine readsBack_of_bare (toList_memberValue_of_open written ?_) unbroken shown.goesOn
    (bare_of_styleOf style) ?_
  · exact fun final => (unbroken _ (List.mem_of_getLast? final)).1 rfl
  · rwa [String.ofList_toList]

end Leaderboard.Yaml
