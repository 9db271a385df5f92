import Mathlib
import Leaderboard.Decimal.Parts

set_option autoImplicit false

namespace Leaderboard.Decimal

open Float.Model (Format UnpackedFloat)
open Float.Model.UnpackedFloat (isNaNBits packedInfinity packedZero)

-- The kind first, then exponent and mantissa.
abbrev Rank := ℤ ×ₗ ℤ ×ₗ ℤ

def rankOf (kind exponent mantissa : ℤ) : Rank := toLex (kind, toLex (exponent, mantissa))

def unpackedRank : UnpackedFloat → Rank
  | .notANumber | .zero _ => rankOf 0 0 0
  | .infinity .positive => rankOf 2 0 0
  | .infinity .negative => rankOf (-2) 0 0
  | .finite .positive mantissa exponent _ => rankOf 1 exponent mantissa
  -- below zero a greater magnitude is the smaller number
  | .finite .negative mantissa exponent _ => rankOf (-1) (-exponent) (-mantissa)

def rank (x : Float) : Rank := unpackedRank x.toModel.unpack

theorem cmp_rankOf (k e m k' e' m' : ℤ) :
    cmp (rankOf k e m) (rankOf k' e' m') =
      (compare k k').then ((compare e e').then (compare m m')) := by
  rw [cmp_eq_compare, Prod.Lex.compare_def]
  simp only [compareLex, compareOn, rankOf, ofLex_toLex, Prod.Lex.compare_def]

theorem compare_natCast (m n : Nat) : compare (m : ℤ) n = compare m n := by
  simp only [compare, compareOfLessAndEq, Nat.cast_lt, Nat.cast_inj]

theorem compare_neg (m n : ℤ) : compare (-m) (-n) = (compare m n).swap := by
  rw [← Std.OrientedCmp.eq_swap]
  simp only [compare, compareOfLessAndEq, neg_lt_neg_iff, neg_inj, eq_comm]

theorem compare_unpacked {a b : UnpackedFloat} (first : a.isNaN = false)
    (second : b.isNaN = false) :
    a.compare b = some (cmp (unpackedRank a) (unpackedRank b)) := by
  cases a with
  | notANumber => cases first
  | zero s =>
    cases b with
    | notANumber => cases second
    | zero t => simp [UnpackedFloat.compare, unpackedRank]
    | infinity t | finite t =>
      cases t <;> simp [UnpackedFloat.compare, unpackedRank, cmp_rankOf] <;> rfl
  | infinity s =>
    cases b with
    | notANumber => cases second
    | infinity t | finite t | zero t =>
      cases s <;> cases t <;> simp [UnpackedFloat.compare, unpackedRank, cmp_rankOf] <;> rfl
  | finite s =>
    cases b with
    | notANumber => cases second
    | infinity t | zero t =>
      cases s <;> cases t <;> simp [UnpackedFloat.compare, unpackedRank, cmp_rankOf] <;> rfl
    | finite t =>
      cases s <;> cases t <;>
        simp [UnpackedFloat.compare, unpackedRank, cmp_rankOf, compare_neg, compare_natCast,
          Ordering.swap_then] <;> rfl

section order

variable {x y : Float} (first : x.isNaN = false) (second : y.isNaN = false)

include first second

theorem compare_toModel :
    x.toModel.unpack.compare y.toModel.unpack = some (cmp (rank x) (rank y)) :=
  compare_unpacked first second

theorem lt_iff_rank_lt : x < y ↔ rank x < rank y := by
  change decide (x.toModel.unpack.lt y.toModel.unpack = true) = true ↔ _
  rw [decide_eq_true_iff, UnpackedFloat.lt, compare_toModel first second, beq_iff_eq,
    Option.some_inj, cmp_eq_lt_iff]

theorem beq_iff_rank_eq : (x == y) = true ↔ rank x = rank y := by
  change x.toModel.unpack.beq y.toModel.unpack = true ↔ _
  rw [UnpackedFloat.beq, compare_toModel first second, beq_iff_eq, Option.some_inj,
    cmp_eq_eq_iff]

end order

theorem isNaNBits_pack (spec : Format) {u : UnpackedFloat} (number : u.isNaN = false) :
    isNaNBits (u.pack spec) = false := by
  rw [isNaNBits, decide_eq_false_iff_not]
  rintro ⟨full, some⟩
  revert full some
  fun_cases UnpackedFloat.pack spec u with
  | case1 => cases number
  | case2 | case4 => simp [packedInfinity]
  | case3 => simp [packedZero]
  | case5 s m e _ bits biased small =>
    rw [UnpackedFloat.unpackExponent_packComponents, BitVec.neg_one_eq_allOnes, ← BitVec.toNat_inj,
      BitVec.toNat_ofNat, BitVec.toNat_allOnes, Nat.mod_eq_of_lt (by omega)]
    omega
  | case6 => simp [spec.he.ne']

theorem isNaN_pack {u : UnpackedFloat} (number : u.isNaN = false) :
    (Float.Model.pack u).isNaN = false := by
  have valid : Format.binary64.Valid (u.pack Format.binary64) := UnpackedFloat.valid_pack
  rw [Bool.eq_false_iff]
  intro nan
  have bits := isNaNBits_pack .binary64 number
  rw [(UnpackedFloat.isNaN_unpack_iff_of_valid valid).1 nan,
    UnpackedFloat.isNaNBits_packedNaN] at bits
  cases bits

-- A number in percent can be infinite, but it is a number.
theorem isNaN_mul_hundred {x : Float} (number : x.isNaN = false) : (x * 100.0).isNaN = false := by
  obtain ⟨s, m, e, pos, hundred⟩ :
      ∃ s m e pos, (100.0 : Float).toModel.unpack = .finite s m e pos := ⟨_, _, _, _, rfl⟩
  have number : x.toModel.unpack.isNaN = false := number
  refine isNaN_pack ?_
  rw [hundred]
  cases unpacked : x.toModel.unpack with
  | notANumber =>
    rw [unpacked] at number
    cases number
  | infinity | zero => rfl
  | finite =>
    simp only [UnpackedFloat.mul, UnpackedFloat.roundWithAccuracy]
    split <;> rfl

theorem isNaN_of_isFinite {x : Float} (finite : isFinite x = true) : x.isNaN = false := by
  rw [Float.isNaN_eq_decide_eq_nan, decide_eq_false_iff_not]
  rintro rfl
  revert finite
  decide

end Leaderboard.Decimal
