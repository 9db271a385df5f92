import Leaderboard.Json.Writer
import Mathlib.Data.List.Basic

set_option autoImplicit false

namespace Leaderboard.Bootstrap

inductive Mode
  | code
  -- behind a slash that may begin a comment
  | slash
  | comment
  | quoted (mark : Char)
  -- behind a backslash in quoted text
  | escaped (mark : Char)
  -- behind quoted text that its line did not finish
  | broken
deriving Repr, DecidableEq

def isLineEnd (c : Char) : Bool :=
  c == '\n' || c == '\r' || c.toNat == 0x2028 || c.toNat == 0x2029

def isQuote (c : Char) : Bool := c == '"' || c == '\'' || c == '`'

namespace Mode

def next : Mode → Char → Mode
  | code, c => if isQuote c then quoted c else if c == '/' then slash else code
  | slash, c => if c == '/' then comment else if isQuote c then quoted c else code
  | comment, c => if isLineEnd c then code else comment
  | quoted mark, c =>
    if c == mark then code
    else if c == '\\' then escaped mark
    else if mark != '`' && (c == '\n' || c == '\r') then broken
    else quoted mark
  | escaped mark, _ => quoted mark
  | broken, _ => broken

def read (m : Mode) (cs : List Char) : Mode := cs.foldl next m

-- The modes after each of the characters.
def trail (m : Mode) : List Char → List Mode
  | [] => []
  | c :: rest => m.next c :: trail (m.next c) rest

variable {m : Mode} {cs : List Char}

@[simp] theorem read_nil (m : Mode) : m.read [] = m := rfl

@[simp] theorem read_cons (m : Mode) (c : Char) (rest : List Char) :
    m.read (c :: rest) = (m.next c).read rest := rfl

theorem read_append (m : Mode) (first second : List Char) :
    m.read (first ++ second) = (m.read first).read second := List.foldl_append

theorem trail_append (m : Mode) (first second : List Char) :
    m.trail (first ++ second) = m.trail first ++ (m.read first).trail second := by
  induction first generalizing m with
  | nil => rfl
  | cons c rest ih => simp [trail, ih]

-- No character moves the reader.
def Keeps (m : Mode) (cs : List Char) : Prop := ∀ c ∈ cs, m.next c = m

theorem Keeps.read (keeps : m.Keeps cs) : m.read cs = m := by
  induction cs with
  | nil => rfl
  | cons c rest ih =>
    rw [read_cons, keeps c List.mem_cons_self]
    exact ih fun d member => keeps d (List.mem_cons_of_mem c member)

theorem keeps_comment_iff : comment.Keeps cs ↔ ∀ c ∈ cs, isLineEnd c = false := by
  simp [Keeps, next]

theorem keeps_code_of {cs : List Char} (calm : ∀ c ∈ cs, isQuote c = false ∧ c ≠ '/') :
    code.Keeps cs := by
  intro c member
  simp [next, calm c member]

theorem next_quoted_iff {mark c : Char} : (quoted mark).next c = quoted mark ↔
    c ≠ mark ∧ c ≠ '\\' ∧ (mark = '`' ∨ c ≠ '\n' ∧ c ≠ '\r') := by
  simp only [next]
  split_ifs <;> simp_all <;> tauto

theorem keeps_message_iff : (quoted '\'').Keeps cs ↔
    ∀ c ∈ cs, c ≠ '\'' ∧ c ≠ '\\' ∧ c ≠ '\n' ∧ c ≠ '\r' := by
  simp [Keeps, next_quoted_iff]

-- In a text between quotation marks.
def Inside (m : Mode) : Prop := m = quoted '"' ∨ m = escaped '"'

instance (m : Mode) : Decidable m.Inside := inferInstanceAs (Decidable (_ ∨ _))

def Returns (cs : List Char) : Prop :=
  (quoted '"').read cs = quoted '"' ∧ ∀ m ∈ (quoted '"').trail cs, m.Inside

instance (cs : List Char) : Decidable (Returns cs) := inferInstanceAs (Decidable (_ ∧ _))

theorem Returns.append {first second : List Char} (before : Returns first)
    (after : Returns second) : Returns (first ++ second) := by
  refine ⟨by rw [read_append, before.1, after.1], ?_⟩
  rw [trail_append, before.1]
  exact List.forall_mem_append.2 ⟨before.2, after.2⟩

theorem returns_control :
    ∀ n < 0x20, Returns (['\\', 'u', '0', '0'] ++ Json.controlDigits n) := by
  decide

theorem returns_escapedChar (c : Char) : Returns (Json.escapedChar c) := by
  unfold Json.escapedChar
  split_ifs with quote backslash feed carriage tab back form control
  iterate 7 decide
  case pos => exact returns_control c.toNat control
  case neg =>
    -- what is written as it is has been tested against the mark, the backslash and both line ends
    have same : (quoted '"').next c = quoted '"' := next_quoted_iff.2 (by simp_all)
    simp [Returns, trail, same, Inside]

end Mode

def Quotation (cs : List Char) : Prop := ∃ body, cs = '"' :: body ++ ['"'] ∧ Mode.Returns body

theorem Quotation.read {cs : List Char} (quotation : Quotation cs) :
    Mode.code.read cs = .code := by
  obtain ⟨body, rfl, inside, -⟩ := quotation
  rw [Mode.read_append]
  change ((Mode.quoted '"').read body).read ['"'] = .code
  rw [inside]
  rfl

theorem quotation_textLiteral (content : String) :
    Quotation (Json.textLiteral content).toList := by
  refine ⟨content.toList.flatMap Json.escapedChar, by simp [Json.textLiteral, Json.writeText], ?_⟩
  induction content.toList with
  | nil => decide
  | cons c rest ih => exact (Mode.returns_escapedChar c).append ih

theorem lineEnd_not_mem_textLiteral (content : String) :
    '\n' ∉ (Json.textLiteral content).toList := by
  have hex : ∀ n < 0x20, '\n' ∉ ['\\', 'u', '0', '0'] ++ Json.controlDigits n := by decide
  have char (c : Char) : '\n' ∉ Json.escapedChar c := by
    unfold Json.escapedChar
    split_ifs with quote backslash feed carriage tab back form control
    iterate 7 decide
    case pos => exact hex c.toNat control
    case neg =>
      intro member
      exact feed (beq_iff_eq.2 (List.mem_singleton.1 member).symm)
  simp [Json.textLiteral, Json.writeText, char]

end Leaderboard.Bootstrap
