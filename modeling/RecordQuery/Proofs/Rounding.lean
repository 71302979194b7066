import Mathlib.Algebra.Order.Field.Power
import Mathlib.Data.Int.Log
import Mathlib.Data.Rat.Floor
import RecordQuery.Binary64
import RecordQuery.Proofs.DecimalOrder

/-! Rounding to binary64 sees no more of a decimal than its size, and a number whose exact size a
decimal has is the one that it rounds to. -/
namespace RecordQuery

theorem roundHalfEven_scaled (num den : Nat) {k : Nat} (positive : 0 < k) :
    roundHalfEven (num * k) (den * k) = roundHalfEven num den := by
  have quotient : num * k / (den * k) = num / den := Nat.mul_div_mul_right num den positive
  have rest : num * k % (den * k) = num % den * k := Nat.mul_mod_mul_right k num den
  have below : 2 * (num % den * k) < den * k ↔ 2 * (num % den) < den := by
    rw [← Nat.mul_assoc]
    exact Nat.mul_lt_mul_right positive
  have above : den * k < 2 * (num % den * k) ↔ den < 2 * (num % den) := by
    rw [← Nat.mul_assoc]
    exact Nat.mul_lt_mul_right positive
  simp only [roundHalfEven, quotient, rest, below, above]

theorem roundHalfEven_congr {n d n' d' : Nat} (positive : 0 < d) (positive' : 0 < d')
    (same : (n : Rat) / d = n' / d') : roundHalfEven n d = roundHalfEven n' d' := by
  have nonzero : (d : Rat) ≠ 0 := by exact_mod_cast positive.ne'
  have nonzero' : (d' : Rat) ≠ 0 := by exact_mod_cast positive'.ne'
  have crossed : n * d' = n' * d := by
    exact_mod_cast (div_eq_div_iff nonzero nonzero').mp same
  calc roundHalfEven n d = roundHalfEven (n * d') (d * d') :=
        (roundHalfEven_scaled n d positive').symm
    _ = roundHalfEven (n' * d) (d' * d) := by rw [crossed, Nat.mul_comm d d']
    _ = roundHalfEven n' d' := roundHalfEven_scaled n' d' positive

theorem roundHalfEven_whole (n : Nat) {d : Nat} (positive : 0 < d) :
    roundHalfEven (n * d) d = n := by
  have rest : n * d % d = 0 := Nat.mul_mod_left n d
  have exact : n * d / d = n := Nat.mul_div_cancel n positive
  simp [roundHalfEven, rest, exact, positive]

/-- A ratio that is shifted by places of some base, on the side that the sign of the shift says. -/
theorem shifted_ratio {base : Nat} (positive : 0 < base) (num den : Nat) (shift : Int) :
    ((num * Nat.pow base shift.toNat : Nat) : Rat) / (den * Nat.pow base (-shift).toNat : Nat) =
      num / den * (base : Rat) ^ shift := by
  have nonzero : (base : Rat) ≠ 0 := by exact_mod_cast positive.ne'
  have split : shift = (shift.toNat : Int) - ((-shift).toNat : Int) := by omega
  have pow (n : Nat) : ((Nat.pow base n : Nat) : Rat) = (base : Rat) ^ n := Nat.cast_pow base n
  conv_rhs => rw [split]
  rw [zpow_sub₀ nonzero, zpow_natCast, zpow_natCast, Nat.cast_mul, Nat.cast_mul, pow, pow,
    mul_div_mul_comm]

theorem scaleBinary_ratio (num den : Nat) (shift : Int) :
    ((scaleBinary num den shift).1 : Rat) / (scaleBinary num den shift).2 =
      num / den * 2 ^ shift :=
  shifted_ratio (by decide) num den shift

theorem scaleDecimal_ratio (num den : Nat) (shift : Int) :
    ((scaleDecimal num den shift).1 : Rat) / (scaleDecimal num den shift).2 =
      num / den * 10 ^ shift :=
  shifted_ratio (by decide) num den shift

theorem scaleBinary_pos (num : Nat) {den : Nat} (positive : 0 < den) (shift : Int) :
    0 < (scaleBinary num den shift).2 :=
  Nat.mul_pos positive (Nat.pow_pos (by decide))

theorem scaleDecimal_pos (num : Nat) {den : Nat} (positive : 0 < den) (shift : Int) :
    0 < (scaleDecimal num den shift).2 :=
  Nat.mul_pos positive (Nat.pow_pos (by decide))

theorem log_eq_of_bounds {base : Nat} (large : 1 < base) {q : Rat} {k : Int}
    (low : (base : Rat) ^ k ≤ q) (high : q < (base : Rat) ^ (k + 1)) : Int.log base q = k := by
  have power : (0 : Rat) < (base : Rat) ^ k := zpow_pos (by exact_mod_cast (by omega)) k
  have positive : 0 < q := power.trans_le low
  have atLeast := (Int.zpow_le_iff_le_log large positive).mp low
  have atMost := (Int.lt_zpow_iff_log_lt large positive).mp high
  omega

theorem two_pow_pos (k : Int) : (0 : Rat) < 2 ^ k := zpow_pos (by norm_num) k

theorem pow_log2_le {n : Nat} (positive : 0 < n) : (2 : Rat) ^ (n.log2 : Int) ≤ n := by
  exact_mod_cast Nat.log2_self_le positive.ne'

theorem lt_pow_log2 (n : Nat) : (n : Rat) < 2 ^ ((n.log2 : Int) + 1) := by
  exact_mod_cast Nat.lt_log2_self

/-- The leading bits of numerator and denominator leave two places for that of the quotient. -/
theorem quotient_bounds {num den : Nat} (left : 0 < num) (right : 0 < den) :
    (2 : Rat) ^ ((num.log2 - den.log2 : Int) - 1) ≤ num / den ∧
      (num : Rat) / den < 2 ^ ((num.log2 - den.log2 : Int) + 1) := by
  have positive : (0 : Rat) < den := by exact_mod_cast right
  constructor
  · rw [le_div_iff₀ positive]
    calc (2 : Rat) ^ ((num.log2 - den.log2 : Int) - 1) * den
        ≤ 2 ^ ((num.log2 - den.log2 : Int) - 1) * 2 ^ ((den.log2 : Int) + 1) :=
          mul_le_mul_of_nonneg_left (lt_pow_log2 den).le (two_pow_pos _).le
      _ = 2 ^ (num.log2 : Int) := by
          rw [← zpow_add₀ (by norm_num)]
          congr 1
          omega
      _ ≤ num := pow_log2_le left
  · rw [div_lt_iff₀ positive]
    calc (num : Rat) < 2 ^ ((num.log2 : Int) + 1) := lt_pow_log2 num
      _ = 2 ^ ((num.log2 - den.log2 : Int) + 1) * 2 ^ (den.log2 : Int) := by
          rw [← zpow_add₀ (by norm_num)]
          congr 1
          omega
      _ ≤ 2 ^ ((num.log2 - den.log2 : Int) + 1) * den :=
          mul_le_mul_of_nonneg_left (pow_log2_le right) (two_pow_pos _).le

theorem leadingBit_eq {num den : Nat} (left : 0 < num) (right : 0 < den) :
    leadingBit num den = Int.log 2 ((num : Rat) / den) := by
  obtain ⟨low, high⟩ := quotient_bounds left right
  let guess : Int := num.log2 - den.log2
  have decided : (scaleBinary num den (-guess)).1 < (scaleBinary num den (-guess)).2 ↔
      (num : Rat) / den < 2 ^ guess := by
    have positive : (0 : Rat) < (scaleBinary num den (-guess)).2 := by
      exact_mod_cast scaleBinary_pos num right (-guess)
    rw [← Nat.cast_lt (α := Rat), ← div_lt_one₀ positive, scaleBinary_ratio, zpow_neg,
      ← div_eq_mul_inv, div_lt_one₀ (two_pow_pos guess)]
  have unfolded : leadingBit num den =
      if (scaleBinary num den (-guess)).1 < (scaleBinary num den (-guess)).2 then guess - 1
      else guess := rfl
  rw [unfolded]
  symm
  by_cases less : (num : Rat) / den < 2 ^ guess
  · rw [if_pos (decided.mpr less)]
    refine log_eq_of_bounds (by decide) low ?_
    rwa [Nat.cast_ofNat, sub_add_cancel]
  · rw [if_neg (decided.not.mpr less)]
    exact log_eq_of_bounds (by decide) (not_lt.mp less) high

namespace Binary64

/-- The absolute value. -/
def size (x : Binary64) : Rat := x.mantissa * 2 ^ x.exponent

theorem size_pos {x : Binary64} (nonzero : x.mantissa ≠ 0) : 0 < x.size := by
  have mantissa : (0 : Rat) < x.mantissa := by exact_mod_cast Nat.pos_of_ne_zero nonzero
  exact mul_pos mantissa (two_pow_pos x.exponent)

theorem ofRatio?_congr (negative : Bool) {n d n' d' : Nat} (positive : 0 < n ∧ 0 < d)
    (positive' : 0 < n' ∧ 0 < d') (same : (n : Rat) / d = n' / d') :
    ofRatio? negative n d = ofRatio? negative n' d' := by
  have leading : leadingBit n d = leadingBit n' d' := by
    rw [leadingBit_eq positive.1 positive.2, leadingBit_eq positive'.1 positive'.2, same]
  have mantissas (shift : Int) :
      roundHalfEven (scaleBinary n d shift).1 (scaleBinary n d shift).2 =
        roundHalfEven (scaleBinary n' d' shift).1 (scaleBinary n' d' shift).2 := by
    apply roundHalfEven_congr (scaleBinary_pos n positive.2 shift)
      (scaleBinary_pos n' positive'.2 shift)
    rw [scaleBinary_ratio, scaleBinary_ratio, same]
  simp only [ofRatio?, leading, mantissas]

/-- The exponent that rounding chooses for a size is the one the number has. -/
theorem exponent_eq {x : Binary64} (nonzero : x.mantissa ≠ 0) :
    max (Int.log 2 x.size - 52) (-1074) = x.exponent := by
  have log : Int.log 2 x.size = (x.mantissa.log2 : Int) + x.exponent := by
    have power := two_pow_pos x.exponent
    refine log_eq_of_bounds (by decide) ?_ ?_
    · rw [Nat.cast_ofNat, zpow_add₀ (by norm_num)]
      exact mul_le_mul_of_nonneg_right (pow_log2_le (Nat.pos_of_ne_zero nonzero)) power.le
    · rw [Nat.cast_ofNat, add_right_comm, zpow_add₀ (by norm_num)]
      exact mul_lt_mul_of_pos_right (lt_pow_log2 x.mantissa) power
  have short : x.mantissa.log2 < 53 := (Nat.log2_lt nonzero).mpr x.small
  rw [log]
  rcases x.normal with normal | subnormal
  · have long : 52 ≤ x.mantissa.log2 := (Nat.le_log2 nonzero).mpr normal
    have low := x.low
    omega
  · omega

theorem ofParts?_self (x : Binary64) : ofParts? x.negative x.mantissa x.exponent = some x := by
  rw [ofParts?, dif_pos ⟨x.small, x.low, x.high, x.normal⟩]

theorem ofRatio?_exact {x : Binary64} (nonzero : x.mantissa ≠ 0) {n d : Nat}
    (positive : 0 < n ∧ 0 < d) (exact : (n : Rat) / d = x.size) :
    ofRatio? x.negative n d = some x := by
  have exponent : max (leadingBit n d - 52) (-1074) = x.exponent := by
    rw [leadingBit_eq positive.1 positive.2, exact]
    exact exponent_eq nonzero
  have rounded : roundHalfEven (scaleBinary n d (-x.exponent)).1
      (scaleBinary n d (-x.exponent)).2 = x.mantissa := by
    have whole : ((scaleBinary n d (-x.exponent)).1 : Rat) / (scaleBinary n d (-x.exponent)).2 =
        (x.mantissa * 1 : Nat) / (1 : Nat) := by
      rw [scaleBinary_ratio, exact, size, mul_assoc, ← zpow_add₀ (by norm_num), add_neg_cancel]
      simp
    rw [roundHalfEven_congr (scaleBinary_pos n positive.2 _) (by decide) whole]
    exact roundHalfEven_whole x.mantissa (by decide)
  have small : x.mantissa ≠ mantissaBound := x.small.ne
  simp only [ofRatio?, exponent, rounded, if_neg small, ofParts?_self]

end Binary64

namespace Decimal

theorem magnitude_eq_log {d : Decimal} (nonzero : d.coeff ≠ 0) :
    d.magnitude = Int.log 10 |d.value| + 1 := by
  have low := le_abs_value nonzero
  have high : |d.value| < 10 ^ (d.magnitude - 1 + 1) := by
    rw [sub_add_cancel]
    exact abs_value_lt d
  have log : Int.log 10 |d.value| = d.magnitude - 1 :=
    log_eq_of_bounds (by decide) (by exact_mod_cast low) (by exact_mod_cast high)
  omega

theorem abs_value_eq_zero (d : Decimal) : |d.value| = 0 ↔ d.coeff = 0 := by
  have power : (10 : Rat) ^ (-d.scale) ≠ 0 := (zpow_pos (by norm_num) _).ne'
  rw [abs_value, mul_eq_zero, or_iff_left power, Nat.cast_eq_zero, Int.natAbs_eq_zero]

theorem value_of_zero {d : Decimal} (zero : d.coeff = 0) : d.value = 0 :=
  abs_eq_zero.mp (d.abs_value_eq_zero.mpr zero)

theorem scaled_ratio (d : Decimal) :
    ((scaleDecimal d.coeff.natAbs 1 (-d.scale)).1 : Rat) /
      (scaleDecimal d.coeff.natAbs 1 (-d.scale)).2 = |d.value| := by
  rw [scaleDecimal_ratio, Nat.cast_one, div_one, abs_value]

theorem scaled_pos {d : Decimal} (nonzero : d.coeff ≠ 0) :
    0 < (scaleDecimal d.coeff.natAbs 1 (-d.scale)).1 ∧
      0 < (scaleDecimal d.coeff.natAbs 1 (-d.scale)).2 :=
  ⟨Nat.mul_pos (Int.natAbs_pos.mpr nonzero) (Nat.pow_pos (by decide)),
    scaleDecimal_pos _ (by decide) _⟩

end Decimal

namespace Binary64

variable {x : Binary64} {d d' : Decimal}

/-- Rounding depends on the size that the digits and the scale denote, not on them. -/
theorem nearest?_congr (negative : Bool) (same : |d.value| = |d'.value|) :
    nearest? negative d = nearest? negative d' := by
  by_cases zero : d.coeff = 0
  · have zero' : d'.coeff = 0 := by
      rwa [← Decimal.abs_value_eq_zero, ← same, Decimal.abs_value_eq_zero]
    rw [nearest?, nearest?, if_pos (.inl zero), if_pos (.inl zero')]
  · have nonzero' : d'.coeff ≠ 0 := by
      rwa [ne_eq, ← Decimal.abs_value_eq_zero, ← same, Decimal.abs_value_eq_zero]
    have magnitude : d.magnitude = d'.magnitude := by
      rw [Decimal.magnitude_eq_log zero, Decimal.magnitude_eq_log nonzero', same]
    have rounded := ofRatio?_congr negative (Decimal.scaled_pos zero) (Decimal.scaled_pos nonzero')
      (by rw [Decimal.scaled_ratio, Decimal.scaled_ratio, same])
    simp only [nearest?, zero, nonzero', magnitude, rounded]

theorem least_size : 2 ^ 1074 ≤ 10 ^ 324 := by decide +kernel

theorem largest_size : mantissaBound * 2 ^ 971 ≤ 10 ^ 309 := by decide +kernel

theorem size_bounds (nonzero : x.mantissa ≠ 0) :
    (10 : Rat) ^ (-324 : Int) ≤ x.size ∧ x.size < 10 ^ (309 : Int) := by
  have mantissa : (1 : Rat) ≤ x.mantissa := by
    exact_mod_cast Nat.one_le_iff_ne_zero.mpr nonzero
  constructor
  · calc (10 : Rat) ^ (-324 : Int) ≤ 2 ^ (-1074 : Int) := by
          rw [zpow_neg, zpow_neg]
          exact inv_anti₀ (by positivity) (by exact_mod_cast least_size)
      _ ≤ 2 ^ x.exponent := zpow_le_zpow_right₀ (by norm_num) x.low
      _ ≤ x.mantissa * 2 ^ x.exponent :=
          le_mul_of_one_le_left (two_pow_pos x.exponent).le mantissa
  · calc (x.mantissa : Rat) * 2 ^ x.exponent < mantissaBound * 2 ^ x.exponent :=
          mul_lt_mul_of_pos_right (by exact_mod_cast x.small) (two_pow_pos x.exponent)
      _ ≤ mantissaBound * 2 ^ (971 : Int) :=
          mul_le_mul_of_nonneg_left (zpow_le_zpow_right₀ (by norm_num) x.high) (Nat.cast_nonneg _)
      _ ≤ 10 ^ (309 : Int) := by exact_mod_cast largest_size

theorem coeff_ne_zero (nonzero : x.mantissa ≠ 0) (exact : |d.value| = x.size) : d.coeff ≠ 0 := by
  rw [ne_eq, ← Decimal.abs_value_eq_zero, exact]
  exact (size_pos nonzero).ne'

/-- Decimals of the size of a binary64 number are inside the range that is rounded at all. -/
theorem magnitude_bounds (nonzero : x.mantissa ≠ 0) (exact : |d.value| = x.size) :
    -324 ≤ d.magnitude ∧ d.magnitude ≤ 310 := by
  obtain ⟨least, most⟩ := size_bounds nonzero
  have low : (10 : Rat) ^ (-324 : Int) < 10 ^ d.magnitude :=
    (least.trans_eq exact.symm).trans_lt (Decimal.abs_value_lt d)
  have high : (10 : Rat) ^ (d.magnitude - 1) < 10 ^ (309 : Int) :=
    ((Decimal.le_abs_value (coeff_ne_zero nonzero exact)).trans_eq exact).trans_lt most
  have above := (zpow_lt_zpow_iff_right₀ (by norm_num)).mp low
  have below := (zpow_lt_zpow_iff_right₀ (by norm_num)).mp high
  omega

theorem nearest?_exact (nonzero : x.mantissa ≠ 0) (exact : |d.value| = x.size) :
    nearest? x.negative d = some x := by
  have coeff := coeff_ne_zero nonzero exact
  have range := magnitude_bounds nonzero exact
  have inside : ¬(d.coeff = 0 ∨ d.magnitude < -324) := by omega
  have finite : ¬310 < d.magnitude := by omega
  rw [nearest?, if_neg inside, if_neg finite]
  exact ofRatio?_exact nonzero (Decimal.scaled_pos coeff)
    ((Decimal.scaled_ratio d).trans exact)

end Binary64
end RecordQuery
