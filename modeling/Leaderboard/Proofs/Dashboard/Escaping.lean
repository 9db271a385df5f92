import Leaderboard.Dashboard.Html
import Leaderboard.Proofs.Json.NumberWriting
import Leaderboard.Proofs.Text.FormEncoding
import Leaderboard.Refresh.Timestamp
import Leaderboard.Report.Figures

set_option autoImplicit false

namespace Leaderboard.Dashboard.Html

-- Whether a character is not written as it stands.
def isSpecial (c : Char) : Bool := c == '&' || isMarkup c

theorem escapeChar_ordinary {c : Char} (ordinary : isSpecial c = false) : escapeChar c = [c] := by
  simp only [isSpecial, isMarkup, Bool.or_eq_false_iff, beq_eq_false_iff_ne] at ordinary
  simp [escapeChar, ordinary]

theorem special_cases {c : Char} (special : isSpecial c = true) :
    c = '&' ∨ c = '<' ∨ c = '>' ∨ c = '"' ∨ c = '\'' := by
  simpa [isSpecial, isMarkup, or_assoc] using special

theorem unescape_cons {c : Char} (ordinary : isSpecial c = false) (rest : List Char) :
    unescape (c :: rest) = c :: unescape rest := by
  have ampersand : c ≠ '&' := fun same => by simp [same, isSpecial] at ordinary
  conv_lhs => unfold unescape
  split <;> simp_all

theorem unescape_escapeChar (c : Char) (rest : List Char) :
    unescape (escapeChar c ++ rest) = c :: unescape rest := by
  cases special : isSpecial c with
  | false =>
    rw [escapeChar_ordinary special]
    exact unescape_cons special rest
  | true => rcases special_cases special with rfl | rfl | rfl | rfl | rfl <;> rfl

theorem unescape_escape (cs : List Char) : unescape (escape cs) = cs := by
  induction cs with
  | nil => rfl
  | cons c rest ih =>
    rw [escape, List.flatMap_cons, ← escape, unescape_escapeChar, ih]

theorem escape_injective : Function.Injective escape :=
  Function.LeftInverse.injective unescape_escape

theorem not_isMarkup_escapeChar (c : Char) : ∀ d ∈ escapeChar c, isMarkup d = false := by
  cases special : isSpecial c with
  | false =>
    have plain : isMarkup c = false := (Bool.or_eq_false_iff.1 special).2
    simpa [escapeChar_ordinary special] using plain
  | true => rcases special_cases special with rfl | rfl | rfl | rfl | rfl <;>
    simp [escapeChar, isMarkup]

theorem not_mem_escape (cs : List Char) {c : Char} (markup : isMarkup c = true) :
    c ∉ escape cs := by
  intro inside
  obtain ⟨d, -, inside⟩ := List.mem_flatMap.1 inside
  rw [not_isMarkup_escapeChar d c inside] at markup
  cases markup

theorem filter_isMarkup_escape (cs : List Char) : (escape cs).filter isMarkup = [] :=
  List.filter_eq_nil_iff.2 fun _ member markup => not_mem_escape cs markup member

def Plain (text : String) : Prop := ∀ c ∈ text.toList, isMarkup c = false

theorem plain_iff {text : String} :
    Plain text ↔ ∀ c ∈ text.toList, c ≠ '<' ∧ c ≠ '>' ∧ c ≠ '"' ∧ c ≠ '\'' := by
  simp [Plain, isMarkup, and_assoc]

theorem Plain.append {a b : String} (first : Plain a) (second : Plain b) : Plain (a ++ b) := by
  intro c member
  rw [String.toList_append, List.mem_append] at member
  exact member.elim (first c) (second c)

theorem plain_ofList {cs : List Char} (each : ∀ c ∈ cs, isMarkup c = false) :
    Plain (String.ofList cs) := by
  simpa [Plain] using each

theorem markup_cases {c : Char} (markup : isMarkup c = true) :
    c = '<' ∨ c = '>' ∨ c = '"' ∨ c = '\'' := by
  simpa [isMarkup, or_assoc] using markup

theorem plain_digit {c : Char} (digit : c.isDigit = true) : isMarkup c = false := by
  by_contra markup
  rcases markup_cases (Bool.not_eq_false _ ▸ markup) with rfl | rfl | rfl | rfl <;>
    simp [Char.isDigit] at digit

theorem plain_toString (n : Nat) : Plain (toString n) := by
  intro c member
  rw [Json.toList_toString] at member
  exact plain_digit ((Json.digits_toDigits n).digits c member)

theorem plain_zeros (n : Nat) : Plain (Decimal.zeros n) := by
  intro c member
  rw [Json.toList_zeros] at member
  exact plain_digit (Json.isDigit_of_mem_zeros member)

theorem plain_signText (negative : Bool) : Plain (Decimal.signText negative) := by
  cases negative <;> simp [Decimal.signText, plain_iff]

theorem plain_positionalText (d : Decimal.Digits) : Plain (Decimal.positionalText "" d) := by
  have digits := plain_toString d.digits
  simp only [Decimal.positionalText]
  split
  · exact (digits.append (plain_zeros _)).append (by simp [plain_iff])
  · split
    · refine .append (.append (plain_ofList ?_) (by simp [plain_iff])) (plain_ofList ?_)
      · exact fun c member => digits c (List.mem_of_mem_take member)
      · exact fun c member => digits c (List.mem_of_mem_drop member)
    · exact (Plain.append (by simp [plain_iff]) (plain_zeros _)).append digits

theorem plain_plainText (x : Float) : Plain (Decimal.plainText x) := by
  unfold Decimal.plainText Decimal.Layout.render
  split
  · simp [plain_iff, Decimal.Layout.plain]
  · exact (plain_signText _).append (by simp [plain_iff, Decimal.Layout.plain])
  · refine (plain_signText _).append ?_
    unfold Decimal.Layout.magnitude
    split
    · simp [plain_iff, Decimal.Layout.plain]
    · exact plain_positionalText _

theorem plain_oneDecimal (x : Float) : Plain (Decimal.oneDecimal x) := by
  unfold Decimal.oneDecimal
  split
  · simp [plain_iff]
  · exact (plain_signText _).append (by simp [plain_iff])
  · exact (((plain_signText _).append (plain_toString _)).append (by simp [plain_iff])).append
      (plain_toString _)

theorem plain_scoreText (showStderr : Bool) (s : Score) : Plain (Report.scoreText showStderr s) := by
  unfold Report.scoreText
  split
  · exact ((plain_plainText _).append (by simp [plain_iff])).append (plain_plainText _)
  · exact plain_plainText _

theorem plain_latencyText (ms : Float) : Plain (Report.latencyText ms) :=
  (plain_plainText _).append (by simp [plain_iff])

theorem plain_percentageText (fraction : Float) : Plain (Report.percentageText fraction) :=
  (plain_oneDecimal _).append (by simp [plain_iff])

theorem plain_padded (width n : Nat) : Plain (Refresh.Timestamp.padded width n) :=
  (plain_zeros _).append (plain_toString n)

theorem plain_readable (t : Refresh.Timestamp) : Plain t.readable := by
  have date : Plain t.dateText :=
    ((((plain_padded _ _).append (by simp [plain_iff])).append (plain_padded _ _)).append (by simp [plain_iff])).append
      (plain_padded _ _)
  have clock : Plain t.clockText :=
    ((((plain_padded _ _).append (by simp [plain_iff])).append (plain_padded _ _)).append (by simp [plain_iff])).append
      (plain_padded _ _)
  exact ((date.append (by simp [plain_iff])).append clock).append (by simp [plain_iff])

theorem plain_formEncode (text : String) : Plain (Text.formEncode text) := by
  intro c member
  have form := Text.isFormChar_formEncode c member
  by_contra markup
  rcases markup_cases (Bool.not_eq_false _ ▸ markup) with rfl | rfl | rfl | rfl <;> cases form

end Leaderboard.Dashboard.Html
