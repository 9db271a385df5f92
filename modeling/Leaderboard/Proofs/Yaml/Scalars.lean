import Leaderboard.Proofs.Json.NumberWriting
import Leaderboard.Proofs.Yaml.Blocks

set_option autoImplicit false

namespace Leaderboard.Yaml

theorem readsBack_of_bare {indent : Nat} {value : Json} {line : Line}
    (written : (memberValue indent value).toList = ' ' :: line ++ ['\n']) (unbroken : Unbroken line)
    (goesOn : '\x00' ∉ line) (bare : Bare line)
    (means : resolve? (String.ofList line) = some value) : ReadsBack 1 indent value := by
  obtain ⟨c, rest, rfl⟩ : ∃ c rest, line = c :: rest := by
    cases line with
    | nil => exact absurd bare.starts (by decide)
    | cons c rest => exact ⟨c, rest, rfl⟩
  obtain ⟨free, gap⟩ := opening_of_startsPlain bare.starts rfl
  have comment : c ≠ '#' := fun same => absurd (same ▸ free) (by decide)
  exact readsBack_of_line written unbroken goesOn gap comment fun fuel below ends =>
    bare.readInline_eq ends.plainBelow_eq means

theorem seamless_of_not_mem {line : Line} (colon : ':' ∉ line) (hash : '#' ∉ line) :
    Seamless line where
  colons before after same := by
    subst same
    simp at colon
  hashes before c after same := by
    subst same
    simp at hash

structure Word (line : Line) : Prop where
  held : line ≠ []
  plain : ∀ c ∈ line, c.isAlphanum = true

instance (line : Line) : Decidable (Word line) :=
  decidable_of_iff (line ≠ [] ∧ line.all Char.isAlphanum = true)
    ⟨fun ⟨held, plain⟩ => ⟨held, List.all_eq_true.1 plain⟩,
      fun word => ⟨word.held, List.all_eq_true.2 word.plain⟩⟩

theorem ne_of_alphanum {c d : Char} (plain : c.isAlphanum = true) (other : d.isAlphanum = false) :
    c ≠ d := by
  rintro rfl
  cases plain.symm.trans other

theorem isGap_of_alphanum {c : Char} (plain : c.isAlphanum = true) : isGap c = false := by
  simp [isGap, ne_of_alphanum plain (d := ' ') (by decide),
    ne_of_alphanum plain (d := '\t') (by decide)]

theorem isReserved_of_alphanum {c : Char} (plain : c.isAlphanum = true) : isReserved c = false := by
  have marks : ("#,[]\x7b\x7d&*!|>'\"%@`".toList.all (fun d => !d.isAlphanum)) = true := by decide
  cases reserved : isReserved c with
  | false => rfl
  | true =>
    have inside := List.all_eq_true.1 marks c (List.contains_iff_mem.1 reserved)
    simp [plain] at inside

theorem Word.bare {line : Line} (word : Word line) : Bare line where
  starts := by
    obtain ⟨c, rest, rfl⟩ := List.exists_cons_of_ne_nil word.held
    have plain := word.plain c List.mem_cons_self
    simp [startsPlain, isReserved_of_alphanum plain, isGap_of_alphanum plain,
      ne_of_alphanum plain (d := '-') (by decide), ne_of_alphanum plain (d := '?') (by decide),
      ne_of_alphanum plain (d := ':') (by decide)]
  ends c last := isGap_of_alphanum (word.plain c (List.mem_of_getLast? last))
  seamless := seamless_of_not_mem (fun inside => absurd (word.plain _ inside) (by decide))
    (fun inside => absurd (word.plain _ inside) (by decide))

theorem Word.unbroken {line : Line} (word : Word line) : Unbroken line := by
  intro c inside
  have plain := word.plain c inside
  constructor <;> rintro rfl <;> exact absurd plain (by decide)

theorem Word.goesOn {line : Line} (word : Word line) : '\x00' ∉ line := fun inside =>
  absurd (word.plain _ inside) (by decide)

theorem readsBack_null (indent : Nat) : ReadsBack 1 indent .null := by
  have word : Word "null".toList := by decide
  exact readsBack_of_bare (by simp [memberValue]) word.unbroken word.goesOn word.bare rfl

theorem readsBack_boolean (indent : Nat) (b : Bool) : ReadsBack 1 indent (.boolean b) := by
  have word : Word (toString b).toList := by cases b <;> decide
  refine readsBack_of_bare (by simp [memberValue]) word.unbroken word.goesOn word.bare ?_
  cases b <;> rfl

theorem ne_of_digits {text word : String} (digits : ∀ c ∈ text.toList, c.isDigit = true)
    (other : word.toList.any (fun c => !c.isDigit) = true) : text ≠ word := by
  rintro rfl
  obtain ⟨c, inside, apart⟩ := List.any_eq_true.1 other
  simp [digits c inside] at apart

theorem splitSign_of_digits {ds : List Char} (digits : ∀ c ∈ ds, c.isDigit = true) :
    Decimal.splitSign ds = (false, ds) := by
  cases ds with
  | nil => rfl
  | cons c rest =>
    have digit := digits c List.mem_cons_self
    have minus : c ≠ '-' := fun same => absurd (same ▸ digit) (by decide)
    have plus : c ≠ '+' := fun same => absurd (same ▸ digit) (by decide)
    simp [Decimal.splitSign, minus, plus]

theorem integer64?_toDigits {n : Nat} (small : n < Decimal.twoTo 63) :
    Decimal.integer64? (Nat.toDigits 10 n) = some (n : Int) := by
  obtain ⟨-, digits⟩ := Json.digits_toDigits n
  have fits : Decimal.fit64? (n : Int) = some (n : Int) := by
    unfold Decimal.fit64?
    generalize Decimal.twoTo 63 = limit at small
    have within : -(limit : Int) ≤ n ∧ (n : Int) < limit := by omega
    simp [within]
  have read : Decimal.integer? (Nat.toDigits 10 n) = some (n : Int) := by
    simp [Decimal.integer?, splitSign_of_digits digits, Json.natural?_toDigits]
  rw [Decimal.integer64?, read, Option.bind_some, fits]

theorem markedInteger?_of_digits {ds : List Char} (digits : ∀ c ∈ ds, c.isDigit = true) :
    markedInteger? ds = none := by
  unfold markedInteger?
  split
  next => exact absurd (digits 'x' (by simp)) (by decide)
  next => exact absurd (digits 'o' (by simp)) (by decide)
  next => exact absurd (digits '+' List.mem_cons_self) (by decide)
  next => rfl

theorem resolve?_toString {n : Nat} (small : n < Decimal.twoTo 63) :
    resolve? (toString n) = some (.nat n) := by
  have same := Json.toList_toString n
  obtain ⟨held, digits⟩ := Json.digits_toDigits n
  have apart {word : String} (other : word.toList.any (fun c => !c.isDigit) = true) :
      (toString n == word) = false := by
    refine beq_false_of_ne (ne_of_digits (fun c inside => ?_) other)
    exact digits c (same ▸ inside)
  have some : (toString n == "") = false := by
    refine beq_false_of_ne fun empty => held ?_
    rw [← same, empty]
    rfl
  have special : specialNumbers.contains (toString n) = false := by
    have all : specialNumbers.all (fun word => word.toList.any (fun c => !c.isDigit)) = true := by
      decide
    cases found : specialNumbers.contains (toString n) with
    | false => rfl
    | true =>
      have word := List.all_eq_true.1 all _ (List.contains_iff_mem.1 found)
      exact absurd (apart word) (by simp)
  unfold resolve?
  rw [some, apart (by decide), apart (by decide), apart (by decide), apart (by decide), special,
    same, markedInteger?_of_digits digits, integer64?_toDigits small]
  rfl

theorem readsBack_nat (indent : Nat) {n : Nat} (small : n < Decimal.twoTo 63) :
    ReadsBack 1 indent (.nat n) := by
  have word : Word (toString n).toList := by
    rw [Json.toList_toString]
    obtain ⟨held, digits⟩ := Json.digits_toDigits n
    exact ⟨held, fun c inside => by simp [Char.isAlphanum, digits c inside]⟩
  have written : (memberValue indent (.nat n)).toList = ' ' :: (toString n).toList ++ ['\n'] := by
    have same : memberValue indent (.nat n) = " " ++ toString n ++ "\n" := rfl
    rw [same, String.toList_append, String.toList_append]
    rfl
  exact readsBack_of_bare written word.unbroken word.goesOn word.bare
    (by rw [String.ofList_toList, resolve?_toString small])

end Leaderboard.Yaml
