import Mathlib.Algebra.Order.Floor.Div
import RecordQuery.Word

/-! The arithmetic of words in terms of natural numbers. -/
namespace RecordQuery

variable {a b : UInt64}

theorem toNat_le_max (a : UInt64) : a.toNat ≤ maxUInt64 := Nat.le_of_lt_succ a.toNat_lt

theorem toNat_ofNat_of_le {n : Nat} (fits : n ≤ maxUInt64) : (UInt64.ofNat n).toNat = n := by
  rw [UInt64.toNat_ofNat']
  exact Nat.mod_eq_of_lt (Nat.lt_succ_of_le fits)

theorem max_one (positive : 1 ≤ a) : max a 1 = a := by
  by_cases low : a ≤ 1
  · exact (if_pos low).trans (UInt64.le_antisymm positive low)
  · exact if_neg low

theorem checkedMul_of_le (fits : a.toNat * b.toNat ≤ maxUInt64) :
    checkedMul a b = some (.ofNat (a.toNat * b.toNat)) := by
  rw [checkedMul, if_pos fits, UInt64.ofNat_mul, UInt64.ofNat_toNat, UInt64.ofNat_toNat]

theorem saturatingAdd_toNat (a b : UInt64) :
    (saturatingAdd a b).toNat = min (a.toNat + b.toNat) maxUInt64 := by
  have small := a.toNat_lt
  have also := b.toNat_lt
  have sum := UInt64.toNat_add a b
  by_cases wrapped : a + b < a
  · rw [saturatingAdd, if_pos wrapped, toNat_ofNat_of_le (Nat.le_refl _), maxUInt64]
    have := UInt64.lt_iff_toNat_lt.mp wrapped
    omega
  · rw [saturatingAdd, if_neg wrapped, maxUInt64]
    have := UInt64.le_iff_toNat_le.mp (UInt64.not_lt.mp wrapped)
    omega

theorem saturatingSub_toNat (a b : UInt64) :
    (saturatingSub a b).toNat = a.toNat - b.toNat := by
  by_cases below : a < b
  · rw [saturatingSub, if_pos below, UInt64.toNat_zero]
    have := UInt64.lt_iff_toNat_lt.mp below
    omega
  · rw [saturatingSub, if_neg below]
    exact UInt64.toNat_sub_of_le _ _ (UInt64.not_lt.mp below)

theorem ceilDiv_eq_of_lt {n d q : Nat} (above : n ≤ d * q) (below : d * q < n + d) :
    n ⌈/⌉ d = q := by
  rw [Nat.ceilDiv_eq_add_pred_div]
  refine Nat.div_eq_of_lt_le ?_ ?_
  · rw [Nat.mul_comm]
    omega
  · rw [Nat.add_mul, Nat.mul_comm]
    omega

/-- A quotient by at least one, rounded up, is a word. -/
theorem ceilDiv_toNat (positive : 1 ≤ b) : (ceilDiv a b).toNat = a.toNat ⌈/⌉ b.toNat := by
  replace positive : 1 ≤ b.toNat := UInt64.le_iff_toNat_le.mp positive
  have small := a.toNat_lt
  have parts := Nat.div_add_mod a.toNat b.toNat
  have rest := Nat.mod_lt a.toNat positive
  have exactly : a % b = 0 ↔ a.toNat % b.toNat = 0 := by
    rw [← UInt64.toNat_inj, UInt64.toNat_mod, UInt64.toNat_zero]
  symm
  by_cases whole : a % b = 0
  · rw [ceilDiv, if_pos whole, UInt64.toNat_div]
    have := exactly.mp whole
    exact ceilDiv_eq_of_lt (by omega) (by omega)
  · rw [ceilDiv, if_neg whole]
    have part := mt exactly.mpr whole
    -- with a remainder the divisor is at least two, which leaves room for one more
    have half : 2 * (a.toNat / b.toNat) ≤ b.toNat * (a.toNat / b.toNat) :=
      Nat.mul_le_mul_right _ (by omega)
    rw [UInt64.toNat_add, UInt64.toNat_div, UInt64.toNat_one, Nat.mod_eq_of_lt (by omega)]
    exact ceilDiv_eq_of_lt (by rw [Nat.mul_add]; omega) (by rw [Nat.mul_add]; omega)

end RecordQuery
