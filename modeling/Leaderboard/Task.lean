import Leaderboard.Name
import Leaderboard.Text.Case

set_option autoImplicit false

namespace Leaderboard

inductive Task
  | average
  | arc
  | hellaswag
  | mmlu
  | truthfulqa
  | winogrande
  | gsm8k
deriving Repr, DecidableEq

namespace Task

def all : List Task := [average, arc, hellaswag, mmlu, truthfulqa, winogrande, gsm8k]

def column : Task → Nat
  | average => 0
  | arc => 1
  | hellaswag => 2
  | mmlu => 3
  | truthfulqa => 4
  | winogrande => 5
  | gsm8k => 6

instance : Ord Task := ⟨fun a b => compare a.column b.column⟩

theorem column_injective {a b : Task} (same : a.column = b.column) : a = b := by
  cases a <;> cases b <;> first | rfl | exact absurd same (by decide)

instance : Std.TransOrd Task where
  eq_swap {a b} := @Std.OrientedCmp.eq_swap Nat compare _ a.column b.column
  isLE_trans {a b c} := @Std.TransCmp.isLE_trans Nat compare _ a.column b.column c.column

instance : Std.LawfulEqOrd Task where
  compare_self {a} := @Std.ReflCmp.compare_self Nat compare _ a.column
  eq_of_compare {a b} same :=
    column_injective (@Std.LawfulEqCmp.eq_of_compare Nat compare _ a.column b.column same)

def name : Task → String
  | average => "average"
  | arc => "arc"
  | hellaswag => "hellaswag"
  | mmlu => "mmlu"
  | truthfulqa => "truthfulqa"
  | winogrande => "winogrande"
  | gsm8k => "gsm8k"

def stderrName (t : Task) : String := t.name ++ "_stderr"

def header : Task → String
  | average => "Average"
  | arc => "ARC"
  | hellaswag => "HellaSwag"
  | mmlu => "MMLU"
  | truthfulqa => "TruthfulQA"
  | winogrande => "Winogrande"
  | gsm8k => "GSM8K"

def ofFolded? (word : String) : Option Task :=
  if word == "avg" then some average else all.find? (fun t => t.name == word)

def ofName? (word : String) : Option Task := ofFolded? (Text.fold word)

def ofName (word : String) : Except UnknownName Task :=
  match ofName? word with
  | some t => .ok t
  | none => .error ⟨.task, word⟩

end Task

end Leaderboard
