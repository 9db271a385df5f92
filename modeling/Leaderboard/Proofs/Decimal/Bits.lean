import Mathlib
import Leaderboard.Json.Basic
import Leaderboard.Proofs.Decimal.Nearest

set_option autoImplicit false

namespace Leaderboard.Decimal

theorem toBits_ofBits {b : UInt64} (field : b.toNat / 2 ^ 52 % 2 ^ 11 ≠ 2047) :
    (Float.ofBits b).toBits = b := by
  have valid : Float.Model.Format.binary64.Valid b.toBitVec := by
    refine ⟨fun full => absurd ?_ field⟩
    have ones := congrArg BitVec.toNat full
    simpa [Float.Model.UnpackedFloat.unpackExponent, BitVec.extractLsb, BitVec.extractLsb',
      Float.Model.Format.binary64, Nat.shiftRight_eq_div_pow] using ones
  exact UInt64.toBitVec_inj.1 (Float.Model.UnpackedFloat.pack_unpack_of_valid valid)

theorem isFinite_ofBits {b : UInt64} (field : b.toNat / 2 ^ 52 % 2 ^ 11 ≠ 2047) :
    isFinite (Float.ofBits b) = true := by
  simp only [isFinite, parts, toBits_ofBits field, twoTo_eq, beq_iff_eq, field, if_false]
  by_cases low : b.toNat / 2 ^ 52 % 2 ^ 11 = 0 <;> simp only [low, if_true, if_false]

theorem roundedBits_exact {mantissa : Nat} {exponent : Int} (pos : 0 < mantissa)
    (bound : mantissa < 2 ^ 53) (least : -1074 ≤ exponent)
    (normal : exponent = -1074 ∨ 2 ^ 52 ≤ mantissa) (greatest : exponent ≤ 971) :
    roundedBits (mantissa * 2 ^ exponent) = (exponent + 1074).toNat * 2 ^ 52 + mantissa := by
  have unit : (0 : ℚ) < 2 ^ exponent := zpow_pos (by norm_num) _
  have value : (0 : ℚ) < mantissa * 2 ^ exponent := mul_pos (by exact_mod_cast pos) unit
  have above : Int.log 2 ((mantissa : ℚ) * 2 ^ exponent) < exponent + 53 := by
    refine log_lt value ?_
    rw [add_comm, zpow_add₀ (by norm_num)]
    exact mul_lt_mul_of_pos_right (by exact_mod_cast bound) unit
  -- So the last place that is kept is the exponent itself, and nothing is rounded away.
  have weight : max (Int.log 2 ((mantissa : ℚ) * 2 ^ exponent) - 52) (-1074) = exponent := by
    rcases normal with rfl | large
    · exact max_eq_right (by omega)
    · have below : exponent + 52 ≤ Int.log 2 ((mantissa : ℚ) * 2 ^ exponent) := by
        refine le_log ?_
        rw [add_comm, zpow_add₀ (by norm_num)]
        exact mul_le_mul_of_nonneg_right (by exact_mod_cast large) unit.le
      rw [max_eq_left (by omega)]
      omega
  simp only [roundedBits, weight, mul_div_cancel_right₀ _ unit.ne', halfEven_natCast]
  omega

theorem bits_split {n : Nat} (size : n < 2 ^ 64) :
    n = (if n / 2 ^ 63 = 1 then 2 ^ 63 else 0) + (n / 2 ^ 52 % 2 ^ 11 * 2 ^ 52 + n % 2 ^ 52) := by
  split <;> omega

theorem parts_eq_finite {x : Float} {negative : Bool} {mantissa : Nat} {exponent : Int}
    (finite : parts x = .finite negative mantissa exponent) :
    ∃ field place, field < 2047 ∧ place < 2 ^ 52 ∧
      x.toBits.toNat = (if negative then 2 ^ 63 else 0) + (field * 2 ^ 52 + place) ∧
      (field = 0 ∧ mantissa = place ∧ exponent = -1074 ∨
        0 < field ∧ mantissa = place + 2 ^ 52 ∧ exponent = (field : Int) - 1075) := by
  have split := bits_split x.toBits.toNat_lt
  refine ⟨x.toBits.toNat / 2 ^ 52 % 2 ^ 11, x.toBits.toNat % 2 ^ 52, ?_⟩
  simp only [parts, twoTo_eq, beq_iff_eq] at finite
  split at finite
  next =>
    split at finite <;> cases finite
  next ordinary =>
    split at finite
    next zero =>
      cases finite
      refine ⟨by omega, by omega, ?_, .inl ⟨zero, rfl, rfl⟩⟩
      simpa using split
    next nonzero =>
      cases finite
      refine ⟨by omega, by omega, ?_, .inr ⟨by omega, rfl, rfl⟩⟩
      simpa using split

theorem nearestTo_parts {x : Float} {negative : Bool} {mantissa : Nat} {exponent : Int}
    (finite : parts x = .finite negative mantissa exponent) :
    nearestTo negative (mantissa * 2 ^ exponent) = x := by
  obtain ⟨field, place, least, small, bits, shape⟩ := parts_eq_finite finite
  have magnitude : (if (mantissa : ℚ) * 2 ^ exponent = 0 then 0
      else roundedBits (mantissa * 2 ^ exponent)) = field * 2 ^ 52 + place := by
    have unit : (2 : ℚ) ^ exponent ≠ 0 := zpow_ne_zero _ (by norm_num)
    have zero : (mantissa : ℚ) * 2 ^ exponent = 0 ↔ mantissa = 0 := by
      rw [mul_eq_zero, or_iff_left unit, Nat.cast_eq_zero]
    rw [if_congr zero rfl rfl]
    split
    next nothing => omega
    next some =>
      rw [roundedBits_exact (by omega) (by omega) (by omega) (by omega) (by omega)]
      omega
  rw [nearestTo, magnitude, ← bits, UInt64.ofNat_toNat, Float.ofBits_toBits]

theorem halfEven_le {q : ℚ} {n : Nat} (pos : 0 ≤ q) (below : q < n) : halfEven q ≤ n := by
  have down : ⌊q⌋₊ < n := (Nat.floor_lt pos).2 below
  simp only [halfEven]
  split
  · omega
  · split <;> omega

theorem roundedBits_of_ordinary {q : ℚ} (pos : 0 < q) (small : q ≤ 2 ^ 64) :
    roundedBits q < 2047 * 2 ^ 52 := by
  have scale : Int.log 2 q < 65 := by
    refine log_lt pos (small.trans_lt ?_)
    norm_num
  have mantissa : halfEven (q / 2 ^ max (Int.log 2 q - 52) (-1074)) ≤ 2 ^ 53 := by
    have unit : (0 : ℚ) < 2 ^ max (Int.log 2 q - 52) (-1074) := zpow_pos (by norm_num) _
    refine halfEven_le (div_pos pos unit).le ?_
    rw [div_lt_iff₀ unit]
    calc q < 2 ^ (Int.log 2 q + 1) := by exact_mod_cast Int.lt_zpow_succ_log_self (by norm_num) q
      _ ≤ 2 ^ (53 + max (Int.log 2 q - 52) (-1074)) :=
        zpow_le_zpow_right₀ (by norm_num) (by omega)
      _ = ((2 ^ 53 : Nat) : ℚ) * 2 ^ max (Int.log 2 q - 52) (-1074) := by
        rw [zpow_add₀ (by norm_num)]
        norm_num
  simp only [roundedBits]
  omega

theorem isFinite_nearestTo (negative : Bool) {q : ℚ}
    (ordinary : q = 0 ∨ roundedBits q < 2047 * 2 ^ 52) :
    isFinite (nearestTo negative q) = true := by
  obtain ⟨magnitude, same, small⟩ : ∃ magnitude, (if q = 0 then 0 else roundedBits q) = magnitude ∧
      magnitude < 2047 * 2 ^ 52 := by
    split
    next => exact ⟨0, rfl, by norm_num⟩
    next some => exact ⟨_, rfl, ordinary.resolve_left some⟩
  have size : (if negative then 2 ^ 63 else 0) + magnitude < 2 ^ 64 := by
    split <;> omega
  have bits : (UInt64.ofNat ((if negative then 2 ^ 63 else 0) + magnitude)).toNat =
      (if negative then 2 ^ 63 else 0) + magnitude := UInt64.toNat_ofNat_of_lt' size
  have field : ((if negative then 2 ^ 63 else 0) + magnitude) / 2 ^ 52 % 2 ^ 11 ≠ 2047 := by
    split <;> omega
  rw [← bits] at field
  rw [nearestTo, same]
  exact isFinite_ofBits field

theorem isFinite_realOfInt {n : Int} (small : n.natAbs ≤ 2 ^ 64) :
    isFinite (Json.realOfInt n) = true := by
  rw [Json.realOfInt, nearest_eq _ _ Nat.one_pos, Nat.cast_one, div_one]
  apply isFinite_nearestTo
  by_cases zero : n.natAbs = 0
  · exact .inl (by exact_mod_cast zero)
  · refine .inr (roundedBits_of_ordinary ?_ ?_)
    · exact_mod_cast Nat.pos_of_ne_zero zero
    · exact_mod_cast small

end Leaderboard.Decimal
