import Leaderboard.Proofs.Yaml.LiteralText
import Leaderboard.Proofs.Yaml.QuotedText

set_option autoImplicit false

namespace Leaderboard.Yaml

-- Line feeds are the only breaks that are not escaped, and without quotes the text means itself.
structure Kept (text : String) : Prop where
  feeds : styleOf text ≠ .double → ∀ c ∈ text.toList, isBreak c = true → c = '\n'
  means : styleOf text = .plain → resolve? text = some (.text text)

theorem kept_iff (text : String) :
    Kept text ↔
      (styleOf text ≠ .double → text.toList.all (fun c => !isBreak c || c == '\n') = true) ∧
        (styleOf text = .plain → meansItself text = true) := by
  have feeds : text.toList.all (fun c => !isBreak c || c == '\n') = true ↔
      ∀ c ∈ text.toList, isBreak c = true → c = '\n' := by
    simp [List.all_eq_true, Classical.or_iff_not_imp_left]
  rw [feeds, meansItself_iff]
  exact ⟨fun kept => ⟨kept.feeds, kept.means⟩, fun ⟨feeds, means⟩ => ⟨feeds, means⟩⟩

instance : DecidablePred Kept := fun text => decidable_of_iff _ (kept_iff text).symm

theorem Kept.readsBack {text : String} (kept : Kept text) (indent : Nat) :
    ReadsBack 1 indent (.text text) := by
  cases style : styleOf text with
  | plain => exact readsBack_plain style (kept.means style)
  | single =>
    have apart := (single_of_styleOf style).2
    refine readsBack_single style fun c inside => ?_
    cases broken : isBreak c with
    | false => rfl
    | true => exact absurd (kept.feeds (by simp [style]) c inside broken ▸ inside) apart
  | literal => exact readsBack_literal style (kept.feeds (by simp [style]))
  | double => exact readsBack_double style

-- The text NaN is written without quotes, but read as a number.
example : ¬ Kept "NaN" := by decide +kernel

example : Kept "two\n  lines: #\n\n" := by decide +kernel

end Leaderboard.Yaml
