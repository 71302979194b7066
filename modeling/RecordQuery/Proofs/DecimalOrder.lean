import Mathlib.Algebra.Order.Field.Power
import Mathlib.Data.Rat.Cast.Order
import Mathlib.Order.Compare
import RecordQuery.Decimal

/-! Decimals compare as their values do. -/
namespace RecordQuery

theorem lt_pow_digitCount (n : Nat) : n < 10 ^ digitCount n :=
  (Nat.length_toDigits_le_iff (by decide) Nat.length_toDigits_pos).mp (Nat.le_refl _)

theorem pow_digitCount_le {n : Nat} (nonzero : n ≠ 0) : 10 ^ (digitCount n - 1) ≤ n := by
  by_cases single : digitCount n - 1 = 0
  · rw [single]
    omega
  · refine Nat.not_lt.mp fun fewer => ?_
    have shorter : digitCount n ≤ digitCount n - 1 :=
      (Nat.length_toDigits_le_iff (by decide) (by omega)).mpr fewer
    omega

namespace Decimal

theorem cast_pow_ten (n : Nat) : ((Nat.pow 10 n : Nat) : Rat) = 10 ^ n := Nat.cast_pow 10 n

theorem value_eq (d : Decimal) : d.value = d.coeff * (10 : Rat) ^ (-d.scale) := by
  have split : -d.scale = ((-d.scale).toNat : Int) - (d.scale.toNat : Int) := by omega
  rw [split, zpow_sub₀ (by norm_num), zpow_natCast, zpow_natCast, value, Rat.mkRat_eq_div]
  rw [Int.cast_mul, Int.cast_natCast, cast_pow_ten, cast_pow_ten, mul_div_assoc]

/-- Written with a larger scale. -/
theorem value_mul_pow {d : Decimal} {scale : Int} (finer : d.scale ≤ scale) :
    d.value * 10 ^ scale = ((d.coeff * Nat.pow 10 (scale - d.scale).toNat : Int) : Rat) := by
  have shift : -d.scale + scale = ((scale - d.scale).toNat : Int) := by omega
  rw [value_eq, mul_assoc, ← zpow_add₀ (by norm_num), shift, zpow_natCast,
    Int.cast_mul, Int.cast_natCast, cast_pow_ten]

/-- Zeros at the end of the digits, or a smaller scale. -/
theorem value_shift (c : Int) (k : Nat) (scale : Int) :
    (⟨c * 10 ^ k, scale⟩ : Decimal).value = (⟨c, scale - k⟩ : Decimal).value := by
  have shift : -(scale - (k : Int)) = (k : Int) + -scale := by omega
  rw [value_eq, value_eq]
  dsimp only
  rw [shift, zpow_add₀ (by norm_num), zpow_natCast, Int.cast_mul, Int.cast_pow, mul_assoc]
  rfl

theorem value_neg_coeff (c scale : Int) :
    (⟨-c, scale⟩ : Decimal).value = -(⟨c, scale⟩ : Decimal).value := by
  rw [value_eq, value_eq, Int.cast_neg, neg_mul]

theorem abs_value (d : Decimal) :
    |d.value| = (d.coeff.natAbs : Rat) * (10 : Rat) ^ (-d.scale) := by
  rw [value_eq, abs_mul, abs_of_pos (zpow_pos (by norm_num : (0 : Rat) < 10) _), Nat.cast_natAbs,
    Int.cast_abs]

theorem abs_value_lt (d : Decimal) : |d.value| < 10 ^ d.magnitude := by
  have digits : (d.coeff.natAbs : Rat) < 10 ^ digitCount d.coeff.natAbs := by
    exact_mod_cast lt_pow_digitCount d.coeff.natAbs
  rw [abs_value, magnitude, sub_eq_add_neg, zpow_add₀ (by norm_num), zpow_natCast]
  exact mul_lt_mul_of_pos_right digits (zpow_pos (by norm_num) _)

theorem le_abs_value {d : Decimal} (nonzero : d.coeff ≠ 0) :
    10 ^ (d.magnitude - 1) ≤ |d.value| := by
  have one : 1 ≤ digitCount d.coeff.natAbs := Nat.length_toDigits_pos
  have shift : d.magnitude - 1 = ((digitCount d.coeff.natAbs - 1 : Nat) : Int) + -d.scale := by
    unfold magnitude
    omega
  have digits : (10 : Rat) ^ (digitCount d.coeff.natAbs - 1) ≤ d.coeff.natAbs := by
    exact_mod_cast pow_digitCount_le (Int.natAbs_ne_zero.mpr nonzero)
  rw [abs_value, shift, zpow_add₀ (by norm_num), zpow_natCast]
  exact mul_le_mul_of_nonneg_right digits (zpow_pos (by norm_num) _).le

theorem abs_value_lt_of_magnitude {a b : Decimal} (nonzero : b.coeff ≠ 0)
    (less : a.magnitude < b.magnitude) : |a.value| < |b.value| :=
  calc |a.value| < 10 ^ a.magnitude := abs_value_lt a
    _ ≤ 10 ^ (b.magnitude - 1) := zpow_le_zpow_right₀ (by norm_num) (by omega)
    _ ≤ |b.value| := le_abs_value nonzero

theorem value_pos (d : Decimal) : 0 < d.value ↔ 0 < d.coeff := by
  rw [value_eq, mul_pos_iff_of_pos_right (zpow_pos (by norm_num) _), Int.cast_pos]

theorem value_neg (d : Decimal) : d.value < 0 ↔ d.coeff < 0 := by
  refine lt_iff_lt_of_le_iff_le ?_
  rw [value_eq, mul_nonneg_iff_of_pos_right (zpow_pos (by norm_num) _), Int.cast_nonneg_iff]

theorem value_lt_of_sign {a b : Decimal} (less : a.coeff.sign < b.coeff.sign) :
    a.value < b.value := by
  have left := Int.sign_trichotomy a.coeff
  have right := Int.sign_trichotomy b.coeff
  have low : a.value ≤ 0 := not_lt.mp fun positive => by
    have := Int.sign_pos_iff.mpr ((value_pos a).mp positive)
    omega
  have high : 0 ≤ b.value := not_lt.mp fun negative => by
    have := Int.sign_neg_iff.mpr ((value_neg b).mp negative)
    omega
  by_cases strict : a.coeff.sign < 0
  · exact ((value_neg a).mpr (Int.sign_neg_iff.mp strict)).trans_le high
  · exact low.trans_lt ((value_pos b).mpr (Int.sign_pos_iff.mp (by omega)))

theorem value_lt_of_magnitude {a b : Decimal} (left : 0 < a.coeff) (right : 0 < b.coeff)
    (less : a.magnitude < b.magnitude) : a.value < b.value := by
  have sizes := abs_value_lt_of_magnitude right.ne' less
  rwa [abs_of_pos ((value_pos a).mpr left), abs_of_pos ((value_pos b).mpr right)] at sizes

theorem value_lt_of_magnitude_neg {a b : Decimal} (left : a.coeff < 0) (right : b.coeff < 0)
    (less : b.magnitude < a.magnitude) : a.value < b.value := by
  have sizes := abs_value_lt_of_magnitude left.ne less
  rw [abs_of_neg ((value_neg a).mpr left), abs_of_neg ((value_neg b).mpr right)] at sizes
  exact neg_lt_neg_iff.mp sizes

theorem compare_magnitude {a b : Decimal} (left : 0 < a.coeff) (right : 0 < b.coeff)
    (apart : a.magnitude ≠ b.magnitude) :
    Ord.compare a.magnitude b.magnitude = Ord.compare a.value b.value := by
  rcases lt_or_gt_of_ne apart with less | more
  · rw [compare_lt_iff_lt.mpr less, eq_comm, compare_lt_iff_lt]
    exact value_lt_of_magnitude left right less
  · rw [compare_gt_iff_gt.mpr more, eq_comm, compare_gt_iff_gt]
    exact value_lt_of_magnitude right left more

theorem compare_magnitude_neg {a b : Decimal} (left : a.coeff < 0) (right : b.coeff < 0)
    (apart : a.magnitude ≠ b.magnitude) :
    Ord.compare b.magnitude a.magnitude = Ord.compare a.value b.value := by
  rcases lt_or_gt_of_ne apart with less | more
  · rw [compare_gt_iff_gt.mpr less, eq_comm, compare_gt_iff_gt]
    exact value_lt_of_magnitude_neg right left less
  · rw [compare_lt_iff_lt.mpr more, eq_comm, compare_lt_iff_lt]
    exact value_lt_of_magnitude_neg left right more

theorem compareAligned_eq (a b : Decimal) : a.compareAligned b = Ord.compare a.value b.value := by
  have power : (0 : Rat) < 10 ^ max a.scale b.scale := zpow_pos (by norm_num) _
  rw [compareAligned, ← cmp_eq_compare, ← cmp_eq_compare, ← cmp_mul_pos_right power,
    value_mul_pow (le_max_left _ _), value_mul_pow (le_max_right _ _)]
  exact (Int.cast_strictMono.cmp_map_eq _ _).symm

theorem compare_eq (a b : Decimal) : a.compare b = Ord.compare a.value b.value := by
  unfold compare
  cases signs : Ord.compare a.coeff.sign b.coeff.sign with
  | lt => exact (compare_lt_iff_lt.mpr (value_lt_of_sign (compare_lt_iff_lt.mp signs))).symm
  | gt => exact (compare_gt_iff_gt.mpr (value_lt_of_sign (compare_gt_iff_gt.mp signs))).symm
  | eq =>
    have same := compare_eq_iff_eq.mp signs
    by_cases zero : a.coeff = 0
    · have zero' : b.coeff = 0 := by
        rwa [zero, Int.sign_zero, eq_comm, Int.sign_eq_zero_iff_zero] at same
      rw [value_eq, value_eq, zero, zero', Int.cast_zero, zero_mul, zero_mul]
      exact (compare_eq_iff_eq.mpr rfl).symm
    rw [if_neg zero]
    -- of two decimals of one sign the magnitudes decide, or else the aligned coefficients
    by_cases aligned : a.magnitude = b.magnitude
    · rw [if_pos aligned]
      exact compareAligned_eq a b
    rw [if_neg aligned]
    by_cases positive : 0 < a.coeff
    · rw [if_pos positive]
      refine compare_magnitude positive ?_ aligned
      rwa [← Int.sign_pos_iff, ← same, Int.sign_pos_iff]
    · have negative : a.coeff < 0 := by omega
      rw [if_neg positive]
      refine compare_magnitude_neg negative ?_ aligned
      rwa [← Int.sign_neg_iff, ← same, Int.sign_neg_iff]

theorem sameValue_iff (a b : Decimal) : a.sameValue b = true ↔ a.value = b.value := by
  rw [sameValue, beq_iff_eq, compare_eq, compare_eq_iff_eq]

end Decimal
end RecordQuery
