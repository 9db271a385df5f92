import Leaderboard.Proofs.Bootstrap.Frame
import Leaderboard.Proofs.Bootstrap.Lexing

set_option autoImplicit false

namespace Leaderboard.Bootstrap

def isNamePart (c : Char) : Bool := c.isAlphanum || c == '_'

def IsName (cs : List Char) : Prop :=
  cs ≠ [] ∧ (∀ c ∈ cs.head?, c.isDigit = false) ∧ ∀ c ∈ cs, isNamePart c = true

theorem not_mem_of_isNamePart {c : Char} (part : isNamePart c = true) :
    c ∉ ['"', '\'', '`', '/', '\\', '\n', '\r'] := by
  have marks : ∀ d ∈ ['"', '\'', '`', '/', '\\', '\n', '\r'], isNamePart d = false := by
    simp only [List.forall_mem_cons]
    exact ⟨rfl, rfl, rfl, rfl, rfl, rfl, rfl, nofun⟩
  intro inside
  simp [marks c inside] at part

theorem calm_of_isNamePart {c : Char} (part : isNamePart c = true) :
    isQuote c = false ∧ c ≠ '/' := by
  have outside := not_mem_of_isNamePart part
  simp_all [isQuote]

theorem IsName.keeps_code {cs : List Char} (name : IsName cs) : Mode.code.Keeps cs :=
  Mode.keeps_code_of fun c member => calm_of_isNamePart (name.2.2 c member)

theorem IsName.keeps_message {cs : List Char} (name : IsName cs) :
    (Mode.quoted '\'').Keeps cs := by
  refine Mode.keeps_message_iff.2 fun c member => ?_
  have outside := not_mem_of_isNamePart (name.2.2 c member)
  simp_all

def Segment.Fits : Segment → Mode → Prop
  | code _, _ => True
  | literal content, m => m = .code ∧ Quotation (literal content).chars
  | verbatim content, .code => IsName content.toList
  | verbatim content, .comment => Mode.comment.Keeps content.toList
  -- only a template goes on over the end of a line, and no text of a plan stands in one
  | verbatim content, .quoted mark => mark ≠ '`' ∧ (Mode.quoted mark).Keeps content.toList
  | verbatim _, _ => False

theorem Segment.Fits.keeps {content : String} {m : Mode} (fits : (verbatim content).Fits m) :
    m.Keeps content.toList := by
  cases m with
  | code => exact IsName.keeps_code fits
  | comment => exact fits
  | quoted mark => exact fits.2
  | _ => exact fits.elim

theorem Segment.Fits.lineEnd_not_mem {content : String} {m : Mode}
    (fits : (verbatim content).Fits m) : '\n' ∉ content.toList := by
  intro member
  cases m with
  | code => simpa [isNamePart] using fits.2.2 '\n' member
  | comment => simpa [isLineEnd] using Mode.keeps_comment_iff.1 fits '\n' member
  | quoted mark => simpa [fits.1] using Mode.next_quoted_iff.1 (fits.2 '\n' member)
  | _ => exact fits.elim

theorem Segment.Fits.read_erase {s : Segment} {m : Mode} (fits : s.Fits m) :
    m.read s.erase.chars = m.read s.chars := by
  cases s with
  | code source => rfl
  | literal content =>
    obtain ⟨rfl, quotation⟩ := fits
    rw [quotation.read]
    exact (quotation_textLiteral "").read
  | verbatim content => exact fits.keeps.read.symm

theorem Segment.Fits.count_lineEnd {s : Segment} {m : Mode} (fits : s.Fits m) :
    s.chars.count '\n' = s.erase.chars.count '\n' := by
  cases s with
  | code source => rfl
  | literal content =>
    have none (t : String) : (Segment.literal t).chars.count '\n' = 0 :=
      List.count_eq_zero.2 (lineEnd_not_mem_textLiteral t)
    rw [none content]
    exact (none "").symm
  | verbatim content => exact List.count_eq_zero.2 fits.lineEnd_not_mem

-- The segments, each with the mode that it begins in.
def placed (m : Mode) : List Segment → List (Segment × Mode)
  | [] => []
  | s :: rest => (s, m) :: placed (m.read s.chars) rest

def Fitting (m : Mode) (ss : List Segment) : Prop := ∀ e ∈ placed m ss, e.1.Fits e.2

section Fitting

variable {m : Mode} {ss : List Segment}

theorem fitting_nil : Fitting m [] := nofun

theorem fitting_cons {s : Segment} :
    Fitting m (s :: ss) ↔ s.Fits m ∧ Fitting (m.read s.chars) ss := List.forall_mem_cons

theorem fitting_append {ts : List Segment} :
    Fitting m (ss ++ ts) ↔ Fitting m ss ∧ Fitting (m.read (ss.flatMap Segment.chars)) ts := by
  induction ss generalizing m with
  | nil => simp [fitting_nil]
  | cons s ss ih => simp [fitting_cons, ih, Mode.read_append, and_assoc]

theorem fitting_code {source : String} :
    Fitting m (.code source :: ss) ↔ Fitting (m.read source.toList) ss := by
  simp [fitting_cons, Segment.Fits, Segment.chars, Segment.text]

theorem fitting_literal {content : String} :
    Fitting .code (.literal content :: ss) ↔ Fitting .code ss := by
  have quotation : Quotation (Segment.literal content).chars := quotation_textLiteral content
  simp [fitting_cons, Segment.Fits, quotation, quotation.read]

theorem fitting_verbatim {content : String} :
    Fitting m (.verbatim content :: ss) ↔ (Segment.verbatim content).Fits m ∧ Fitting m ss := by
  rw [fitting_cons]
  -- text that fits leaves the mode to the rest as it was before it
  refine and_congr_right fun fits => ?_
  rw [← Segment.Fits.read_erase fits]
  rfl

theorem Fitting.placed_erase (fitting : Fitting m ss) :
    (placed m ss).map (fun e => (e.1.erase, e.2)) = placed m (ss.map Segment.erase) := by
  induction ss generalizing m with
  | nil => rfl
  | cons s ss ih =>
    obtain ⟨fits, rest⟩ := fitting_cons.1 fitting
    rw [placed, List.map_cons, List.map_cons, placed, fits.read_erase, ih rest]

theorem Fitting.count_lineEnd (fitting : Fitting m ss) :
    (ss.flatMap Segment.chars).count '\n' =
      ((ss.map Segment.erase).flatMap Segment.chars).count '\n' := by
  induction ss generalizing m with
  | nil => rfl
  | cons s ss ih =>
    obtain ⟨fits, rest⟩ := fitting_cons.1 fitting
    rw [List.map_cons, List.flatMap_cons, List.flatMap_cons, List.count_append, List.count_append,
      fits.count_lineEnd, ih rest]

end Fitting

end Leaderboard.Bootstrap
