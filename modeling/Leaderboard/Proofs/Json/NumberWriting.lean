import Leaderboard.Json.Writer
import Leaderboard.Proofs.Decimal.Bits
import Leaderboard.Proofs.Decimal.Shortest
import Leaderboard.Proofs.Json.Number

set_option autoImplicit false

namespace Leaderboard.Json

open Decimal (natOfDigits)

section digits

theorem natOfDigits_eq (ds : List Char) : natOfDigits ds = Nat.ofDigitChars 10 ds 0 := by
  simp only [natOfDigits, Nat.ofDigitChars, Decimal.digitValue, Nat.mul_comm]

theorem natOfDigits_concat (ds : List Char) (c : Char) :
    natOfDigits (ds ++ [c]) = natOfDigits ds * 10 + Decimal.digitValue c := by
  simp [natOfDigits]

theorem natOfDigits_append (first second : List Char) :
    natOfDigits (first ++ second) =
      natOfDigits first * 10 ^ second.length + natOfDigits second := by
  induction second using List.reverseRecOn with
  | nil => simp [natOfDigits]
  | append_singleton rest c ih =>
    rw [← List.append_assoc, natOfDigits_concat, ih, natOfDigits_concat, List.length_append,
      List.length_singleton, pow_succ]
    ring

theorem natOfDigits_zeros (n : Nat) : natOfDigits (List.replicate n '0') = 0 := by
  induction n with
  | zero => rfl
  | succ n ih => rw [List.replicate_succ', natOfDigits_concat, ih]; rfl

theorem natOfDigits_toDigits (n : Nat) : natOfDigits (Nat.toDigits 10 n) = n := by
  rw [natOfDigits_eq, Nat.ofDigitChars_ten_toDigits]

theorem toList_toString (n : Nat) : (toString n).toList = Nat.toDigits 10 n := by
  rw [Nat.toString_eq_ofList_toDigits, String.toList_ofList]

theorem digits_toDigits (n : Nat) : Digits (Nat.toDigits 10 n) where
  nonempty := Nat.toDigits_ne_nil
  digits := fun _ inside => Nat.isDigit_of_mem_toDigits (by decide) (by decide) inside

theorem natural?_toDigits (n : Nat) : Decimal.natural? (Nat.toDigits 10 n) = some n := by
  obtain ⟨held, digits⟩ := digits_toDigits n
  rw [Decimal.natural?, if_pos (by simpa [held] using digits), natOfDigits_toDigits]

theorem head?_toDigits {n : Nat} (pos : 0 < n) : (Nat.toDigits 10 n).head? ≠ some '0' := by
  induction n using Nat.strongRecOn with
  | ind n ih =>
    rw [Nat.toDigits_eq_if (by decide)]
    split
    next small => interval_cases n <;> decide
    next large =>
      rw [List.head?_append_of_ne_nil _ Nat.toDigits_ne_nil]
      exact ih (n / 10) (by omega) (by omega)

theorem wholeText_toDigits (n : Nat) : WholeText (Nat.toDigits 10 n) where
  toDigits := digits_toDigits n
  leading := by
    rcases Nat.eq_zero_or_pos n with rfl | pos
    · exact .inl rfl
    · exact .inr (head?_toDigits pos)

end digits

inductive DecimalText : List Char → ℚ → Prop
  | parts {whole placesText exponentText : List Char} {places : Option (List Char)}
    {exponent : Option Int} {q : ℚ} (wholeText : WholeText whole)
    (placed : PlacesText placesText places) (raised : ExponentText exponentText exponent)
    (fractional : places ≠ none ∨ exponent ≠ none)
    (value : natOfDigits (whole ++ places.getD []) *
      (10 : ℚ) ^ (exponent.getD 0 - (places.getD []).length) = q) :
    DecimalText (whole ++ (placesText ++ exponentText)) q

theorem DecimalText.of_eq {text same : List Char} {q : ℚ} (written : DecimalText text q)
    (equal : same = text) : DecimalText same q := equal ▸ written

theorem DecimalText.numberText {text : List Char} {q : ℚ} (written : DecimalText text q)
    {negative : Bool} (finite : Decimal.isFinite (Decimal.nearestTo negative q) = true) :
    NumberText ((if negative then ['-'] else []) ++ text)
      (.real (Decimal.nearestTo negative q)) := by
  cases written with
  | @parts whole placesText exponentText places exponent _ wholeText placed raised fractional
      value =>
    refine .parts wholeText placed raised ?_
    have read : Decimal.ofDecimal negative (natOfDigits (whole ++ places.getD []))
        (exponent.getD 0 - (places.getD []).length) = Decimal.nearestTo negative q := by
      rw [Decimal.ofDecimal_eq, value]
    unfold numberOf
    split
    next => simp at fractional
    next => simp [read, finite]

theorem toList_zeros (n : Nat) : (Decimal.zeros n).toList = List.replicate n '0' :=
  String.toList_ofList

theorem isDigit_of_mem_zeros {n : Nat} {c : Char} (inside : c ∈ List.replicate n '0') :
    c.isDigit = true := by
  rw [List.eq_of_mem_replicate inside]
  rfl

theorem Digits.zeros_append {ds : List Char} (digits : Digits ds) (n : Nat) :
    Digits (List.replicate n '0' ++ ds) where
  nonempty := by simp [digits.nonempty]
  digits := fun c inside =>
    (List.mem_append.1 inside).elim isDigit_of_mem_zeros (digits.digits c)

theorem Digits.append_zeros {ds : List Char} (digits : Digits ds) (n : Nat) :
    Digits (ds ++ List.replicate n '0') where
  nonempty := by simp [digits.nonempty]
  digits := fun c inside =>
    (List.mem_append.1 inside).elim (digits.digits c) isDigit_of_mem_zeros

theorem natOfDigits_append_zeros (ds : List Char) (n : Nat) :
    natOfDigits (ds ++ List.replicate n '0') = natOfDigits ds * 10 ^ n := by
  rw [natOfDigits_append, natOfDigits_zeros, List.length_replicate, Nat.add_zero]

theorem natOfDigits_zeros_append (ds : List Char) (n : Nat) :
    natOfDigits (List.replicate n '0' ++ ds) = natOfDigits ds := by
  rw [natOfDigits_append, natOfDigits_zeros, Nat.zero_mul, Nat.zero_add]

theorem decimalText_zeros {d : Decimal.Digits} (some : d.digits ≠ 0) (whole : 0 ≤ d.exponent) :
    DecimalText (Nat.toDigits 10 d.digits ++ List.replicate d.exponent.toNat '0' ++ ['.', '0'])
      d.value := by
  have first : WholeText (Nat.toDigits 10 d.digits ++ List.replicate d.exponent.toNat '0') := by
    refine ⟨(digits_toDigits _).append_zeros _, .inr ?_⟩
    rw [List.head?_append_of_ne_nil _ Nat.toDigits_ne_nil]
    exact head?_toDigits (Nat.pos_of_ne_zero some)
  have zero : Digits ['0'] := ⟨by simp, by simp⟩
  refine .parts first (.some zero) .none (.inl nofun) ?_
  have read : natOfDigits (Nat.toDigits 10 d.digits ++ List.replicate d.exponent.toNat '0' ++ ['0'])
      = d.digits * 10 ^ d.exponent.toNat * 10 := by
    rw [natOfDigits_concat, natOfDigits_append_zeros, natOfDigits_toDigits]
    rfl
  have power : (10 : ℚ) ^ d.exponent = 10 ^ d.exponent.toNat := by
    rw [← zpow_natCast, Int.toNat_of_nonneg whole]
  simp only [Option.getD_some, Option.getD_none, read, Decimal.Digits.value, power]
  push_cast
  norm_num
  ring

theorem decimalText_split {d : Decimal.Digits} (some : d.digits ≠ 0) {places : Nat}
    (part : d.exponent = -places) (pos : 0 < places)
    (short : places < (Nat.toDigits 10 d.digits).length) :
    DecimalText
      ((Nat.toDigits 10 d.digits).take ((Nat.toDigits 10 d.digits).length - places) ++
        '.' :: (Nat.toDigits 10 d.digits).drop ((Nat.toDigits 10 d.digits).length - places))
      d.value := by
  have ds := digits_toDigits d.digits
  have first : WholeText
      ((Nat.toDigits 10 d.digits).take ((Nat.toDigits 10 d.digits).length - places)) := by
    refine ⟨⟨?_, fun c inside => ds.digits c (List.mem_of_mem_take inside)⟩, .inr ?_⟩
    · rw [← List.length_pos_iff, List.length_take]
      omega
    · rw [List.head?_take, if_neg (by omega)]
      exact head?_toDigits (Nat.pos_of_ne_zero some)
  have last : Digits
      ((Nat.toDigits 10 d.digits).drop ((Nat.toDigits 10 d.digits).length - places)) := by
    refine ⟨?_, fun c inside => ds.digits c (List.mem_of_mem_drop inside)⟩
    rw [← List.length_pos_iff, List.length_drop]
    omega
  have count : ((Nat.toDigits 10 d.digits).drop
      ((Nat.toDigits 10 d.digits).length - places)).length = places := by
    rw [List.length_drop]
    omega
  have text := DecimalText.parts first (.some last) .none (.inl nofun) rfl
  simp only [Option.getD_some, Option.getD_none, List.take_append_drop, count,
    natOfDigits_toDigits, List.append_nil, zero_sub, ← part] at text
  exact text

theorem decimalText_small {d : Decimal.Digits} {places : Nat}
    (part : d.exponent = -places) (long : (Nat.toDigits 10 d.digits).length ≤ places) :
    DecimalText
      ('0' :: '.' :: (List.replicate (places - (Nat.toDigits 10 d.digits).length) '0' ++
        Nat.toDigits 10 d.digits)) d.value := by
  have zero : WholeText ['0'] := wholeText_toDigits 0
  have last := (digits_toDigits d.digits).zeros_append
    (places - (Nat.toDigits 10 d.digits).length)
  have count : (List.replicate (places - (Nat.toDigits 10 d.digits).length) '0' ++
      Nat.toDigits 10 d.digits).length = places := by
    rw [List.length_append, List.length_replicate]
    omega
  have text := DecimalText.parts zero (.some last) .none (.inl nofun) rfl
  have read : natOfDigits (['0'] ++ (List.replicate
      (places - (Nat.toDigits 10 d.digits).length) '0' ++ Nat.toDigits 10 d.digits)) =
      d.digits := by
    rw [← List.replicate_one, natOfDigits_zeros_append, natOfDigits_zeros_append,
      natOfDigits_toDigits]
  simp only [Option.getD_some, Option.getD_none, count, read, List.append_nil, zero_sub,
    ← part] at text
  exact text

-- The point falls behind all digits, among them or before them.
theorem decimalText_positional {d : Decimal.Digits} (some : d.digits ≠ 0) :
    DecimalText (Decimal.positionalText ".0" d).toList d.value := by
  have length : (toString d.digits).length = (Nat.toDigits 10 d.digits).length := by
    rw [← String.length_toList, toList_toString]
  simp only [Decimal.positionalText, length]
  split
  next whole =>
    simpa [toList_toString, toList_zeros] using decimalText_zeros some whole
  next part =>
    have exponent : d.exponent = -((-d.exponent).toNat : Int) := by omega
    split
    next short =>
      simpa [toList_toString] using decimalText_split some exponent (by omega) short
    next long =>
      simpa [toList_toString, toList_zeros] using decimalText_small exponent (by omega)

theorem exponentText_nonneg {weight : Int} (nonneg : 0 ≤ weight) :
    ExponentText ('e' :: '+' :: (toString weight).toList) (some weight) := by
  obtain ⟨n, rfl⟩ := Int.eq_ofNat_of_zero_le nonneg
  have text := ExponentText.some (.inl rfl) .plus (digits_toDigits n)
  rw [if_neg Bool.false_ne_true, natOfDigits_toDigits, ← toList_toString] at text
  exact text

theorem toList_toString_negSucc (n : Nat) :
    (toString (Int.negSucc n)).toList = '-' :: Nat.toDigits 10 (n + 1) := by
  have text : toString (Int.negSucc n) = "-" ++ toString (n + 1) := rfl
  rw [text, String.toList_append, toList_toString]
  rfl

theorem exponentText_negative {weight : Int} (negative : weight < 0) :
    ExponentText ('e' :: (toString weight).toList) (some weight) := by
  obtain ⟨n, rfl⟩ := Int.eq_negSucc_of_lt_zero negative
  have text := ExponentText.some (.inl rfl) .minus (digits_toDigits (n + 1))
  rw [if_pos rfl, natOfDigits_toDigits] at text
  rw [toList_toString_negSucc]
  exact text

theorem exponentText_weight (weight : Int) :
    ExponentText ('e' :: ((if 0 ≤ weight then "+" else "") ++ toString weight).toList)
      (some weight) := by
  split
  next nonneg => simpa using exponentText_nonneg nonneg
  next negative => simpa using exponentText_negative (not_le.1 negative)

theorem decimalText_scientific {d : Decimal.Digits} (some : d.digits ≠ 0) :
    DecimalText (Decimal.scientificText "+" d).toList d.value := by
  have ds := digits_toDigits d.digits
  have leading := head?_toDigits (Nat.pos_of_ne_zero some)
  have raised := exponentText_weight (d.exponent + (toString d.digits).length - 1)
  have length : (toString d.digits).length = (Nat.toDigits 10 d.digits).length := by
    rw [← String.length_toList, toList_toString]
  have value := natOfDigits_toDigits d.digits
  simp only [Decimal.scientificText, toList_toString, length] at raised ⊢
  cases digits : Nat.toDigits 10 d.digits with
  | nil => exact absurd digits Nat.toDigits_ne_nil
  | cons first rest =>
    rw [digits] at ds leading raised value
    have whole : WholeText [first] := by
      refine ⟨⟨by simp, fun c inside => ?_⟩, .inr leading⟩
      rw [List.mem_singleton.1 inside]
      exact ds.digits first List.mem_cons_self
    -- A single digit has no point behind it, so the exponent alone makes it a fraction.
    cases rest with
    | nil =>
      refine .of_eq (.parts whole .none raised (.inr (by simp)) ?_) (by simp)
      simp [value, Decimal.Digits.value]
    | cons second others =>
      have last : Digits (second :: others) :=
        ⟨List.cons_ne_nil _ _, fun c inside => ds.digits c (List.mem_cons_of_mem _ inside)⟩
      refine .of_eq (.parts whole (.some last) raised (.inr (by simp)) ?_) (by simp)
      have power : d.exponent + ((first :: second :: others).length : Int) - 1 -
          (second :: others).length = d.exponent := by
        simp only [List.length_cons]
        omega
      simp only [Option.getD_some, List.cons_append, List.nil_append, value, power,
        Decimal.Digits.value]

theorem nearestTo_congr (negative : Bool) {p q : ℚ} (zero : p = 0 ↔ q = 0)
    (bits : Decimal.roundedBits p = Decimal.roundedBits q) :
    Decimal.nearestTo negative p = Decimal.nearestTo negative q := by
  simp only [Decimal.nearestTo, zero, bits]

theorem exists_decimalText (negative : Bool) (mantissa : Nat) (exponent : Int) :
    ∃ q, DecimalText (numberLayout.magnitude mantissa exponent).toList q ∧
      Decimal.nearestTo negative q = Decimal.nearestTo negative (mantissa * 2 ^ exponent) := by
  by_cases nothing : mantissa = 0
  -- Zero has no shortest digits; it is written as `0.0`.
  · refine ⟨0, ?_, by simp [nothing]⟩
    have zero : Digits ['0'] := ⟨by simp, by simp⟩
    have text := DecimalText.parts (q := 0) (wholeText_toDigits 0) (.some zero) .none (.inl nofun)
      (by simp [natOfDigits, Decimal.digitValue])
    simpa [Decimal.Layout.magnitude, nothing, numberLayout] using text
  · obtain ⟨some, bits⟩ := Decimal.shortest_value (Nat.pos_of_ne_zero nothing) exponent
    refine ⟨(Decimal.shortest mantissa exponent).value, ?_, nearestTo_congr negative ?_ bits⟩
    · simp only [Decimal.Layout.magnitude, beq_iff_eq, nothing, if_false]
      split
      · exact decimalText_positional some
      · exact decimalText_scientific some
    · have first : (Decimal.shortest mantissa exponent).value ≠ 0 :=
        mul_ne_zero (by exact_mod_cast some) (zpow_ne_zero _ (by norm_num))
      have second : (mantissa : ℚ) * 2 ^ exponent ≠ 0 :=
        mul_ne_zero (by exact_mod_cast nothing) (zpow_ne_zero _ (by norm_num))
      simp [first, second]

theorem numberText_realText {x : Float} (finite : Decimal.isFinite x = true) :
    NumberText (realText x).toList (.real x) := by
  obtain ⟨negative, mantissa, exponent, parts⟩ : ∃ negative mantissa exponent,
      Decimal.parts x = .finite negative mantissa exponent := by
    unfold Decimal.isFinite at finite
    split at finite
    next parts => exact ⟨_, _, _, parts⟩
    next => cases finite
  obtain ⟨q, written, same⟩ := exists_decimalText negative mantissa exponent
  have value : Decimal.nearestTo negative q = x := same.trans (Decimal.nearestTo_parts parts)
  have sign : (Decimal.signText negative).toList = if negative then ['-'] else [] := by
    cases negative <;> rfl
  have text := written.numberText (value ▸ finite)
  rw [value, ← sign, ← String.toList_append] at text
  rw [realText, if_pos finite, Decimal.Layout.render, parts]
  exact text

theorem numberText_integer {n : Int} (least : -2 ^ 63 ≤ n) (greatest : n < 2 ^ 64) :
    NumberText (toString n).toList (.integer n) := by
  cases n with
  | ofNat n =>
    have small : n < 2 ^ 64 := by
      rw [Int.ofNat_eq_natCast] at greatest
      omega
    have value : numberOf false (Nat.toDigits 10 n) none none = some (.integer n) := by
      simp only [numberOf, natOfDigits_toDigits, Decimal.twoTo_eq, small, Bool.false_eq_true,
        if_false, if_true]
    have text := NumberText.parts (wholeText_toDigits n) .none .none value
    have same : toString (Int.ofNat n) = toString n := rfl
    rw [same, toList_toString]
    simpa using text
  | negSucc n =>
    have small : ¬ n + 1 > 2 ^ 63 := by omega
    have value : numberOf true (Nat.toDigits 10 (n + 1)) none none =
        some (.integer (Int.negSucc n)) := by
      simp only [numberOf, natOfDigits_toDigits, Decimal.twoTo_eq, small, beq_iff_eq,
        Nat.succ_ne_zero, decide_false, Bool.or_false, if_true, if_false]
      rfl
    have text := NumberText.parts (wholeText_toDigits (n + 1)) .none .none value
    rw [toList_toString_negSucc]
    simpa using text

end Leaderboard.Json
