import Leaderboard.Decimal.Shortest
import Leaderboard.Proofs.Decimal.Nearest

set_option autoImplicit false

namespace Leaderboard.Decimal

def Digits.value (d : Digits) : ℚ := d.digits * 10 ^ d.exponent

theorem readsBack_iff (bits : Nat) (d : Digits) :
    readsBack bits d = true ↔ d.digits ≠ 0 ∧ roundedBits d.value = bits := by
  simp only [readsBack, Bool.and_eq_true, bne_iff_ne, beq_iff_eq, tenTo_eq]
  refine and_congr_right fun some => ?_
  have top : 0 < d.digits * 10 ^ d.exponent.toNat :=
    Nat.mul_pos (Nat.pos_of_ne_zero some) (Nat.pow_pos (by decide))
  have power := zpow_eq_div 10 (by decide) d.exponent
  rw [magnitudeBits_eq top (Nat.pow_pos (by decide)), Digits.value]
  push_cast at power ⊢
  rw [power, mul_div_assoc]

theorem onGrid_readsBack {num den bits count : Nat} {scale : Int} {d : Digits}
    (found : onGrid num den bits scale count = some d) : readsBack bits d = true := by
  simp only [onGrid] at found
  split at found
  next lower _ =>
    cases found
    exact lower
  next _ upper =>
    cases found
    exact upper
  next => cases found
  next lower upper =>
    split at found
    · cases found
      exact lower
    · cases found
      exact upper
    · split at found <;> cases found
      · exact lower
      · exact upper

theorem stripZeros_value (fuel : Nat) (d : Digits) :
    (stripZeros fuel d).value = d.value ∧ ((stripZeros fuel d).digits = 0 ↔ d.digits = 0) := by
  induction fuel generalizing d with
  | zero => exact ⟨rfl, Iff.rfl⟩
  | succ fuel ih =>
    rw [stripZeros]
    split
    next ends =>
      simp only [Bool.and_eq_true, bne_iff_ne, beq_iff_eq] at ends
      obtain ⟨value, zero⟩ := ih ⟨d.digits / 10, d.exponent + 1⟩
      have tens : d.digits = d.digits / 10 * 10 := by omega
      constructor
      · rw [value, Digits.value, Digits.value, zpow_add_one₀ (by norm_num)]
        nth_rewrite 2 [tens]
        push_cast
        ring
      · rw [zero]
        dsimp only
        omega
    next => exact ⟨rfl, Iff.rfl⟩

theorem expansion_value (mantissa : Nat) (exponent : Int) :
    (expansion mantissa exponent).value = mantissa * 2 ^ exponent := by
  rw [expansion]
  split
  next whole =>
    have power : (2 : ℚ) ^ exponent = 2 ^ exponent.toNat := by
      rw [← zpow_natCast, Int.toNat_of_nonneg whole]
    rw [Digits.value, zpow_zero, mul_one, power, twoTo_eq]
    push_cast
    rfl
  next part =>
    have ten : (10 : ℚ) ^ exponent = 2 ^ exponent * 5 ^ exponent := by
      rw [← mul_zpow]
      norm_num
    have five : (5 : ℚ) ^ (-exponent).toNat * 5 ^ exponent = 1 := by
      rw [← zpow_natCast, Int.toNat_of_nonneg (by omega), ← zpow_add₀ (by norm_num),
        neg_add_cancel, zpow_zero]
    have digits : ((mantissa * Nat.pow 5 (-exponent).toNat : Nat) : ℚ) =
        mantissa * 5 ^ (-exponent).toNat := by
      exact_mod_cast rfl
    calc ((mantissa * Nat.pow 5 (-exponent).toNat : Nat) : ℚ) * 10 ^ exponent
        = mantissa * 2 ^ exponent * (5 ^ (-exponent).toNat * 5 ^ exponent) := by
          rw [digits, ten]
          ring
      _ = mantissa * 2 ^ exponent := by rw [five, mul_one]

theorem shortest_value {mantissa : Nat} (pos : 0 < mantissa) (exponent : Int) :
    (shortest mantissa exponent).digits ≠ 0 ∧
      roundedBits (shortest mantissa exponent).value = roundedBits (mantissa * 2 ^ exponent) := by
  have top : 0 < (fraction mantissa exponent).1 := Nat.mul_pos pos (Nat.pow_pos (by decide))
  have bits := magnitudeBits_eq top (fraction_pos mantissa exponent)
  rw [fraction_eq] at bits
  simp only [shortest]
  split
  next d found =>
    obtain ⟨n, -, grid⟩ := List.exists_of_findSome?_eq_some found
    obtain ⟨some, value⟩ := (readsBack_iff _ _).1 (onGrid_readsBack grid)
    obtain ⟨same, zero⟩ := stripZeros_value 20 d
    exact ⟨fun none => some (zero.1 none), by rw [same, value, bits]⟩
  next =>
    refine ⟨fun none => ?_, by rw [expansion_value]⟩
    have value := expansion_value mantissa exponent
    rw [Digits.value, none, Nat.cast_zero, zero_mul] at value
    have some : (mantissa : ℚ) * 2 ^ exponent ≠ 0 :=
      mul_ne_zero (by exact_mod_cast pos.ne') (zpow_ne_zero _ (by norm_num))
    exact some value.symm

end Leaderboard.Decimal
