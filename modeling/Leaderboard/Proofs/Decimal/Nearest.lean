import Mathlib.Algebra.Order.Floor.Semifield
import Mathlib.Data.Int.Log
import Mathlib.Data.Rat.Floor
import Mathlib.Tactic.FieldSimp
import Mathlib.Tactic.Linarith
import Mathlib.Tactic.Positivity
import Leaderboard.Decimal.Parts

set_option autoImplicit false

namespace Leaderboard.Decimal

theorem twoTo_eq (n : Nat) : twoTo n = 2 ^ n := rfl

theorem tenTo_eq (n : Nat) : tenTo n = 10 ^ n := rfl

def halfEven (q : ℚ) : Nat :=
  let down := ⌊q⌋₊
  if 2 * (q - down) < 1 then down
  else if 1 < 2 * (q - down) then down + 1
  else down + down % 2

theorem divHalfEven_eq (num : Nat) {den : Nat} (pos : 0 < den) :
    divHalfEven num den = halfEven ((num : ℚ) / den) := by
  have positive : (0 : ℚ) < den := by exact_mod_cast pos
  have down : ⌊(num : ℚ) / den⌋₊ = num / den := Nat.floor_div_eq_div num den
  have rest : (num : ℚ) / den - (num / den : Nat) = (num % den : Nat) / den := by
    have split : (num : ℚ) = den * (num / den : Nat) + (num % den : Nat) := by
      exact_mod_cast (Nat.div_add_mod num den).symm
    rw [eq_div_iff positive.ne', sub_mul, div_mul_cancel₀ _ positive.ne']
    linarith
  have below : 2 * ((num : ℚ) / den - (num / den : Nat)) < 1 ↔ 2 * (num % den) < den := by
    rw [rest, ← mul_div_assoc, div_lt_one positive]
    exact_mod_cast Iff.rfl
  have above : 1 < 2 * ((num : ℚ) / den - (num / den : Nat)) ↔ den < 2 * (num % den) := by
    rw [rest, ← mul_div_assoc, one_lt_div positive]
    exact_mod_cast Iff.rfl
  simp only [divHalfEven, halfEven, down, below, above]
  split
  next less => rw [if_pos (Nat.compare_eq_lt.1 less)]
  next more =>
    have order := Nat.compare_eq_gt.1 more
    rw [if_neg (by omega), if_pos order]
  next same =>
    have order := Nat.compare_eq_eq.1 same
    rw [if_neg (by omega), if_neg (by omega)]

theorem fraction_pos (mantissa : Nat) (exponent : Int) : 0 < (fraction mantissa exponent).2 :=
  Nat.pow_pos (by decide)

theorem zpow_eq_div (base : Nat) (pos : 0 < base) (e : Int) :
    (base : ℚ) ^ e = (base : ℚ) ^ e.toNat / (base : ℚ) ^ (-e).toNat := by
  have nonzero : (base : ℚ) ≠ 0 := by exact_mod_cast pos.ne'
  rw [← zpow_natCast, ← zpow_natCast, ← zpow_sub₀ nonzero]
  congr 1
  omega

theorem fraction_eq (mantissa : Nat) (exponent : Int) :
    ((fraction mantissa exponent).1 : ℚ) / (fraction mantissa exponent).2 =
      mantissa * 2 ^ exponent := by
  have power := zpow_eq_div 2 (by decide) exponent
  simp only [fraction, twoTo_eq]
  push_cast at power ⊢
  rw [power, mul_div_assoc]

theorem zpow_log2_le {n : Nat} (pos : 0 < n) : (2 : ℚ) ^ (n.log2 : Int) ≤ n := by
  rw [zpow_natCast]
  exact_mod_cast Nat.log2_self_le pos.ne'

theorem lt_zpow_log2 (n : Nat) : (n : ℚ) < 2 ^ ((n.log2 : Int) + 1) := by
  have power : (2 : ℚ) ^ ((n.log2 : Int) + 1) = 2 ^ (n.log2 + 1) := by
    exact_mod_cast zpow_natCast (2 : ℚ) (n.log2 + 1)
  rw [power]
  exact_mod_cast Nat.lt_log2_self

theorem le_log {q : ℚ} {e : Int} (lower : (2 : ℚ) ^ e ≤ q) : e ≤ Int.log 2 q := by
  have pos : 0 < q := (zpow_pos (by norm_num) e).trans_le lower
  exact (Int.zpow_le_iff_le_log (by norm_num) pos).1 (by exact_mod_cast lower)

theorem log_lt {q : ℚ} {e : Int} (pos : 0 < q) (upper : q < 2 ^ e) : Int.log 2 q < e :=
  (Int.lt_zpow_iff_log_lt (by norm_num) pos).1 (by exact_mod_cast upper)

theorem log_eq {q : ℚ} {e : Int} (lower : (2 : ℚ) ^ e ≤ q) (upper : q < 2 ^ (e + 1)) :
    Int.log 2 q = e := by
  have pos : 0 < q := (zpow_pos (by norm_num) e).trans_le lower
  have above := le_log lower
  have below := log_lt pos upper
  omega

theorem binaryScale_eq {num den : Nat} (numPos : 0 < num) (denPos : 0 < den) :
    binaryScale num den = Int.log 2 ((num : ℚ) / den) := by
  have two : (2 : ℚ) ≠ 0 := by norm_num
  have top : (0 : ℚ) < num := by exact_mod_cast numPos
  have bottom : (0 : ℚ) < den := by exact_mod_cast denPos
  -- Both numbers lie between two powers of two, which leaves two powers for the quotient.
  have upper : (num : ℚ) / den < 2 ^ ((num.log2 : Int) - den.log2 + 1) := by
    rw [div_lt_iff₀ bottom]
    calc (num : ℚ) < 2 ^ ((num.log2 : Int) + 1) := lt_zpow_log2 num
      _ = 2 ^ ((num.log2 : Int) - den.log2 + 1) * 2 ^ (den.log2 : Int) := by
        rw [← zpow_add₀ two]
        congr 1
        omega
      _ ≤ 2 ^ ((num.log2 : Int) - den.log2 + 1) * den :=
        mul_le_mul_of_nonneg_left (zpow_log2_le denPos) (zpow_pos (by norm_num) _).le
  have lower : (2 : ℚ) ^ ((num.log2 : Int) - den.log2 - 1) ≤ num / den := by
    rw [le_div_iff₀ bottom]
    calc (2 : ℚ) ^ ((num.log2 : Int) - den.log2 - 1) * den
        ≤ 2 ^ ((num.log2 : Int) - den.log2 - 1) * 2 ^ ((den.log2 : Int) + 1) :=
          mul_le_mul_of_nonneg_left (lt_zpow_log2 den).le (zpow_pos (by norm_num) _).le
      _ = 2 ^ (num.log2 : Int) := by
        rw [← zpow_add₀ two]
        congr 1
        omega
      _ ≤ num := zpow_log2_le numPos
  have power := fraction_eq 1 ((num.log2 : Int) - den.log2)
  have unit : (0 : ℚ) < (fraction 1 ((num.log2 : Int) - den.log2)).2 := by
    exact_mod_cast fraction_pos 1 _
  rw [Nat.cast_one, one_mul] at power
  have below : num * (fraction 1 ((num.log2 : Int) - den.log2)).2 <
      (fraction 1 ((num.log2 : Int) - den.log2)).1 * den ↔
      (num : ℚ) / den < 2 ^ ((num.log2 : Int) - den.log2) := by
    rw [← power, div_lt_div_iff₀ bottom unit]
    exact_mod_cast Iff.rfl
  simp only [binaryScale]
  split
  next less =>
    have short := below.1 less
    rw [log_eq lower (by rwa [sub_add_cancel])]
  next reached => rw [log_eq (not_lt.1 fun short => reached (below.2 short)) upper]

def roundedBits (q : ℚ) : Nat :=
  let weight := max (Int.log 2 q - 52) (-1074)
  min ((weight + 1074).toNat * 2 ^ 52 + halfEven (q / 2 ^ weight)) (2047 * 2 ^ 52)

theorem magnitudeBits_eq {num den : Nat} (numPos : 0 < num) (denPos : 0 < den) :
    magnitudeBits num den = roundedBits ((num : ℚ) / den) := by
  have scaled (weight : Int) :
      divHalfEven (num * 2 ^ (-weight).toNat) (den * 2 ^ weight.toNat) =
        halfEven ((num : ℚ) / den / 2 ^ weight) := by
    have pos : 0 < den * 2 ^ weight.toNat := by positivity
    rw [divHalfEven_eq _ pos]
    congr 1
    have power := zpow_eq_div 2 (by decide) weight
    push_cast at power ⊢
    rw [power]
    field_simp
  simp only [magnitudeBits, roundedBits, binaryScale_eq numPos denPos, scaled, twoTo_eq]

def nearestTo (negative : Bool) (q : ℚ) : Float :=
  Float.ofBits (UInt64.ofNat
    ((if negative then 2 ^ 63 else 0) + if q = 0 then 0 else roundedBits q))

theorem nearest_eq (negative : Bool) (num : Nat) {den : Nat} (pos : 0 < den) :
    nearest negative num den = nearestTo negative ((num : ℚ) / den) := by
  have bottom : (den : ℚ) ≠ 0 := by exact_mod_cast pos.ne'
  by_cases zero : num = 0
  · simp [nearest, nearestTo, zero, twoTo_eq]
  · have nonzero : (num : ℚ) / den ≠ 0 := div_ne_zero (by exact_mod_cast zero) bottom
    simp only [nearest, nearestTo, beq_iff_eq, zero, if_false, nonzero, twoTo_eq,
      magnitudeBits_eq (Nat.pos_of_ne_zero zero) pos]

theorem le_halfEven (q : ℚ) : ⌊q⌋₊ ≤ halfEven q := by
  simp only [halfEven]
  split
  · exact le_rfl
  · split <;> omega

theorem halfEven_of_lt_half {q : ℚ} (small : 2 * q < 1) : halfEven q = 0 := by
  have down : ⌊q⌋₊ = 0 := Nat.floor_eq_zero.2 (by linarith)
  simp [halfEven, down, small]

theorem halfEven_natCast (n : Nat) : halfEven n = n := by
  simp [halfEven]

theorem roundedBits_of_large {q : ℚ} (large : 2 ^ (1024 : Int) ≤ q) :
    roundedBits q = 2047 * 2 ^ 52 := by
  have pos : 0 < q := (zpow_pos (by norm_num) _).trans_le large
  have scale := le_log large
  have weight : max (Int.log 2 q - 52) (-1074) = Int.log 2 q - 52 := max_eq_left (by omega)
  -- The leading bit alone lifts the bits to those of infinity, where they are cut off.
  have mantissa : 2 ^ 52 ≤ halfEven (q / 2 ^ (Int.log 2 q - 52)) := by
    refine le_trans (Nat.le_floor ?_) (le_halfEven _)
    rw [le_div_iff₀ (zpow_pos (by norm_num) _)]
    have self : (2 : ℚ) ^ Int.log 2 q ≤ q := by
      exact_mod_cast Int.zpow_log_le_self (b := 2) (by norm_num) pos
    calc ((2 ^ 52 : Nat) : ℚ) * 2 ^ (Int.log 2 q - 52)
        = 2 ^ (52 : Int) * 2 ^ (Int.log 2 q - 52) := by norm_num
      _ = 2 ^ Int.log 2 q := by
          rw [← zpow_add₀ (by norm_num)]
          congr 1
          omega
      _ ≤ q := self
  simp only [roundedBits, weight]
  omega

theorem roundedBits_of_small {q : ℚ} (pos : 0 < q) (small : q < 2 ^ (-1075 : Int)) :
    roundedBits q = 0 := by
  have scale := log_lt pos small
  have weight : max (Int.log 2 q - 52) (-1074) = -1074 := max_eq_right (by omega)
  have mantissa : halfEven (q / 2 ^ (-1074 : Int)) = 0 := by
    apply halfEven_of_lt_half
    rw [← mul_div_assoc, div_lt_one (zpow_pos (by norm_num) _)]
    calc 2 * q < 2 * 2 ^ (-1075 : Int) := by linarith
      _ = 2 ^ (-1074 : Int) := (zpow_one_add₀ (by norm_num) (-1075)).symm
  simp only [roundedBits, weight, mantissa]
  rfl

theorem zpow_two_le_zpow_ten : (2 : ℚ) ^ (1203 : Int) ≤ 10 ^ (401 : Int) := by
  calc (2 : ℚ) ^ (1203 : Int) = (2 ^ (3 : Int)) ^ (401 : Int) := by rw [← zpow_mul]; rfl
    _ ≤ 10 ^ (401 : Int) := zpow_le_zpow_left₀ (by norm_num) (by norm_num) (by norm_num)

theorem two_pow_le_of_lt {digits : Nat} {exponent : Int} (some : digits ≠ 0)
    (far : 400 < exponent) : (2 : ℚ) ^ (1024 : Int) ≤ digits * 10 ^ exponent := by
  have one : (1 : ℚ) ≤ digits := by exact_mod_cast Nat.pos_of_ne_zero some
  calc (2 : ℚ) ^ (1024 : Int) ≤ 2 ^ (1203 : Int) :=
        zpow_le_zpow_right₀ (by norm_num) (by norm_num)
    _ ≤ 1 * 10 ^ (401 : Int) := by rw [one_mul]; exact zpow_two_le_zpow_ten
    _ ≤ 1 * 10 ^ exponent :=
      mul_le_mul_of_nonneg_left (zpow_le_zpow_right₀ (by norm_num) (by omega)) (by norm_num)
    _ ≤ digits * 10 ^ exponent := mul_le_mul_of_nonneg_right one (zpow_pos (by norm_num) _).le

theorem lt_two_pow_of_lt {digits : Nat} {exponent : Int}
    (far : (digits.log2 : Int) + 1 + exponent < -400) :
    (digits : ℚ) * 10 ^ exponent < 2 ^ (-1075 : Int) := by
  have power : (0 : ℚ) < 10 ^ exponent := zpow_pos (by norm_num) _
  have digitsBelow : (digits : ℚ) < 10 ^ ((digits.log2 : Int) + 1) := by
    refine (lt_zpow_log2 digits).trans_le ?_
    exact zpow_le_zpow_left₀ (by omega) (by norm_num) (by norm_num)
  calc (digits : ℚ) * 10 ^ exponent < 10 ^ ((digits.log2 : Int) + 1) * 10 ^ exponent :=
        mul_lt_mul_of_pos_right digitsBelow power
    _ = 10 ^ ((digits.log2 : Int) + 1 + exponent) := (zpow_add₀ (by norm_num) _ _).symm
    _ ≤ 10 ^ (-401 : Int) := zpow_le_zpow_right₀ (by norm_num) (by omega)
    _ ≤ 2 ^ (-1203 : Int) := by
      rw [zpow_neg, zpow_neg]
      exact inv_anti₀ (zpow_pos (by norm_num) _) zpow_two_le_zpow_ten
    _ ≤ 2 ^ (-1075 : Int) := zpow_le_zpow_right₀ (by norm_num) (by norm_num)

-- The shortcuts for exponents far out of range give the nearest number, too.
theorem ofDecimal_eq (negative : Bool) (digits : Nat) (exponent : Int) :
    ofDecimal negative digits exponent = nearestTo negative (digits * 10 ^ exponent) := by
  -- Without the shortcuts the quotient is rounded as it is.
  have plain : nearest negative (digits * tenTo exponent.toNat) (tenTo (-exponent).toNat) =
      nearestTo negative (digits * 10 ^ exponent) := by
    have unit : 0 < 10 ^ (-exponent).toNat := by positivity
    have power := zpow_eq_div 10 (by decide) exponent
    rw [tenTo_eq, tenTo_eq, nearest_eq _ _ unit]
    push_cast at power ⊢
    rw [power, mul_div_assoc]
  have zero : nearest negative 0 1 = nearestTo negative 0 := by
    simpa using nearest_eq negative 0 Nat.one_pos
  by_cases nothing : digits = 0
  · simp [ofDecimal, nothing, zero]
  have some : (digits : ℚ) ≠ 0 := by exact_mod_cast nothing
  have nonzero : (digits : ℚ) * 10 ^ exponent ≠ 0 := mul_ne_zero some (zpow_ne_zero _ (by norm_num))
  simp only [ofDecimal, beq_iff_eq, nothing, if_false]
  split
  next far =>
    have large := roundedBits_of_large (two_pow_le_of_lt nothing far)
    simp only [nearestTo, infinity, large, nonzero, if_false, twoTo_eq]
  next =>
    split
    next far =>
      have nonneg : (0 : ℚ) ≤ digits * 10 ^ exponent :=
        mul_nonneg (Nat.cast_nonneg _) (zpow_pos (by norm_num) _).le
      have pos := lt_of_le_of_ne nonneg nonzero.symm
      have small := roundedBits_of_small pos (lt_two_pow_of_lt far)
      rw [zero]
      simp only [nearestTo, small, nonzero, if_false, if_true]
    next => exact plain

end Leaderboard.Decimal
