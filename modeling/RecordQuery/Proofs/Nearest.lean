import RecordQuery.Proofs.Rounding

/-! How far rounding to binary64 numbers goes, and the size past which it ends. -/
namespace RecordQuery

theorem le_of_cast_lt {m k : Nat} (less : (m : Rat) < k + 1) : m ≤ k :=
  Nat.lt_succ_iff.mp (by exact_mod_cast less)

theorem eq_of_abs_sub_lt {m k : Nat} (near : |(m : Rat) - k| < 1) : m = k := by
  obtain ⟨low, high⟩ := abs_lt.mp near
  exact Nat.le_antisymm (le_of_cast_lt (by linarith)) (le_of_cast_lt (by linarith))

section Half

variable {num den k : Nat}

/-- A quotient is rounded by a half at most, and up by a half only to an even number. -/
theorem roundHalfEven_within (num : Nat) (positive : 0 < den) :
    2 * roundHalfEven num den * den ≤ 2 * num + den ∧
      2 * num ≤ 2 * roundHalfEven num den * den + den ∧
      (2 * num = 2 * roundHalfEven num den * den + den → roundHalfEven num den % 2 = 0) := by
  have whole := Nat.div_add_mod' num den
  have rest := Nat.mod_lt num positive
  unfold roundHalfEven
  dsimp only
  generalize num / den = q at whole ⊢
  generalize num % den = r at whole rest ⊢
  split
  · simp only [Nat.mul_assoc]
    omega
  split
  · simp only [Nat.mul_assoc, Nat.add_mul]
    omega
  · rcases Nat.mod_two_eq_zero_or_one q with even | odd
    · simp only [even, Nat.mul_assoc, Nat.add_mul]
      omega
    · simp only [odd, Nat.mul_assoc, Nat.add_mul]
      omega

theorem roundHalfEven_error (num : Nat) (positive : 0 < den) :
    |(roundHalfEven num den : Rat) - num / den| ≤ 1 / 2 := by
  obtain ⟨above, below, -⟩ := roundHalfEven_within num positive
  have size : (0 : Rat) < den := by exact_mod_cast positive
  have above : (2 * roundHalfEven num den * den : Rat) ≤ 2 * num + den := by exact_mod_cast above
  have below : (2 * num : Rat) ≤ 2 * roundHalfEven num den * den + den := by exact_mod_cast below
  have cancel : (num : Rat) / den * den = num := div_mul_cancel₀ _ size.ne'
  rw [abs_le]
  constructor
  · refine le_of_mul_le_mul_right ?_ size
    linarith
  · refine le_of_mul_le_mul_right ?_ size
    linarith

theorem roundHalfEven_eq (positive : 0 < den) (near : |(k : Rat) - num / den| < 1 / 2) :
    roundHalfEven num den = k := by
  have error := abs_le.mp (roundHalfEven_error num positive)
  have near := abs_lt.mp near
  refine eq_of_abs_sub_lt (abs_lt.mpr ⟨?_, ?_⟩) <;> linarith

theorem roundHalfEven_le (positive : 0 < den) (below : (num : Rat) / den ≤ k) :
    roundHalfEven num den ≤ k := by
  have error := (abs_le.mp (roundHalfEven_error num positive)).2
  exact le_of_cast_lt (by linarith)

theorem le_roundHalfEven (positive : 0 < den) (above : (k : Rat) ≤ num / den) :
    k ≤ roundHalfEven num den := by
  have error := (abs_le.mp (roundHalfEven_error num positive)).1
  exact le_of_cast_lt (by linarith)

theorem even_le_roundHalfEven (positive : 0 < den) (even : k % 2 = 0)
    (above : (k : Rat) - 1 / 2 ≤ num / den) : k ≤ roundHalfEven num den := by
  obtain ⟨-, below, tie⟩ := roundHalfEven_within num positive
  have size : (0 : Rat) < den := by exact_mod_cast positive
  have half : 2 * (k * den) ≤ 2 * num + den := by
    rw [le_div_iff₀ size] at above
    have scaled : (2 * (k * den) : Rat) ≤ 2 * num + den := by linarith
    exact_mod_cast scaled
  refine Nat.not_lt.mp fun less => ?_
  have step : (roundHalfEven num den + 1) * den ≤ k * den := Nat.mul_le_mul_right den less
  rw [Nat.succ_mul] at step
  rw [Nat.mul_assoc] at below tie
  have exact := tie (by omega)
  have same : k * den = (roundHalfEven num den + 1) * den := by
    rw [Nat.succ_mul]
    omega
  have next := Nat.eq_of_mul_eq_mul_right positive same
  omega

end Half

namespace Binary64

variable {q : Rat} {x : Binary64} {d : Decimal}

/-- The exponent of the numbers among which a size is rounded. -/
def unit (q : Rat) : Int := max (Int.log 2 q - 52) (-1074)

theorem mul_unit (q : Rat) : q * 2 ^ (-unit q) * 2 ^ unit q = q := by
  rw [mul_assoc, ← zpow_add₀ (by norm_num), neg_add_cancel, zpow_zero, mul_one]

theorem units_lt (q : Rat) : q * 2 ^ (-unit q) < mantissaBound := by
  have bound : (mantissaBound : Rat) = 2 ^ (53 : Int) := by norm_num [mantissaBound]
  have log : q < 2 ^ (Int.log 2 q + 1) := by
    exact_mod_cast Int.lt_zpow_succ_log_self (by decide) q
  have exponent : Int.log 2 q + 1 ≤ 53 + unit q := by
    unfold unit
    omega
  refine lt_of_mul_lt_mul_right ?_ (two_pow_pos (unit q)).le
  rw [mul_unit, bound, ← zpow_add₀ (by norm_num)]
  exact log.trans_le (zpow_le_zpow_right₀ (by norm_num) exponent)

theorem le_units (positive : 0 < q) : leastNormal ≤ q * 2 ^ (-unit q) ∨ unit q = -1074 := by
  have bound : (leastNormal : Rat) = 2 ^ (52 : Int) := by norm_num [leastNormal]
  have log : (2 : Rat) ^ Int.log 2 q ≤ q := by
    exact_mod_cast Int.zpow_log_le_self (by decide) positive
  by_cases subnormal : Int.log 2 q - 52 ≤ -1074
  · exact .inr (max_eq_right subnormal)
  · have exponent : 52 + unit q = Int.log 2 q := by
      unfold unit
      omega
    refine .inl (le_of_mul_le_mul_right ?_ (two_pow_pos (unit q)))
    rwa [mul_unit, bound, ← zpow_add₀ (by norm_num), exponent]

/-- The mantissa to which a size is rounded, in units. -/
structure Rounded (q : Rat) (mantissa : Nat) : Prop where
  error : |(mantissa : Rat) - q * 2 ^ (-unit q)| ≤ 1 / 2
  even : ∀ k : Nat, k % 2 = 0 → (k : Rat) - 1 / 2 ≤ q * 2 ^ (-unit q) → k ≤ mantissa
  bounded : mantissa ≤ mantissaBound
  normal : leastNormal ≤ mantissa ∨ unit q = -1074

theorem ofRatio?_rounded (negative : Bool) {num den : Nat} (positive : 0 < num ∧ 0 < den)
    (size : (num : Rat) / den = q) :
    ∃ mantissa, Rounded q mantissa ∧ ofRatio? negative num den =
      if mantissa = mantissaBound then ofParts? negative leastNormal (unit q + 1)
      else ofParts? negative mantissa (unit q) := by
  have exponent : max (leadingBit num den - 52) (-1074) = unit q := by
    rw [leadingBit_eq positive.1 positive.2, size, unit]
  have scaled := scaleBinary_ratio num den (-unit q)
  have divisor := scaleBinary_pos num positive.2 (-unit q)
  rw [size] at scaled
  have real : 0 < q := by
    rw [← size]
    exact div_pos (by exact_mod_cast positive.1) (by exact_mod_cast positive.2)
  refine ⟨roundHalfEven (scaleBinary num den (-unit q)).1 (scaleBinary num den (-unit q)).2,
    ⟨?_, fun k even above => ?_, ?_, ?_⟩, ?_⟩
  · rw [← scaled]
    exact roundHalfEven_error _ divisor
  · exact even_le_roundHalfEven divisor even (by rwa [scaled])
  · refine roundHalfEven_le divisor ?_
    rw [scaled]
    exact (units_lt q).le
  · refine (le_units real).imp_left fun normal => le_roundHalfEven divisor ?_
    rwa [scaled]
  · simp only [ofRatio?, exponent]

theorem ofParts?_eq_some {negative : Bool} {mantissa : Nat} {exponent : Int}
    (read : ofParts? negative mantissa exponent = some x) :
    x.negative = negative ∧ x.mantissa = mantissa ∧ x.exponent = exponent := by
  unfold ofParts? at read
  split at read
  · cases read
    exact ⟨rfl, rfl, rfl⟩
  · cases read

theorem ofParts?_eq_none (negative : Bool) {mantissa : Nat} {exponent : Int}
    (small : mantissa < mantissaBound) (low : -1074 ≤ exponent)
    (normal : leastNormal ≤ mantissa ∨ exponent = -1074) :
    ofParts? negative mantissa exponent = none ↔ 971 < exponent := by
  unfold ofParts?
  split
  next inside => simp [inside]
  next outside =>
    simp only [true_iff]
    omega

/-- The size of the number that comes out is a whole one of units, or of fewer of the next ones. -/
theorem size_of_rounded {mantissa : Nat} (negative : Bool)
    (read : (if mantissa = mantissaBound then ofParts? negative leastNormal (unit q + 1)
      else ofParts? negative mantissa (unit q)) = some x) :
    x.size = mantissa * 2 ^ unit q ∧ unit q ≤ x.exponent := by
  split at read
  next carry =>
    obtain ⟨-, least, exponent⟩ := ofParts?_eq_some read
    have twice : mantissaBound = leastNormal * 2 := rfl
    rw [size, least, exponent, carry, twice, Nat.cast_mul, zpow_add_one₀ (by norm_num)]
    constructor
    · push_cast
      ring
    · omega
  next =>
    obtain ⟨-, same, exponent⟩ := ofParts?_eq_some read
    rw [size, same, exponent]
    exact ⟨rfl, le_rfl⟩

theorem ofRatio?_error {negative : Bool} {num den : Nat} (positive : 0 < num ∧ 0 < den)
    (size : (num : Rat) / den = q) (read : ofRatio? negative num den = some x) :
    |x.size - q| ≤ 2 ^ x.exponent / 2 := by
  obtain ⟨mantissa, rounded, chosen⟩ := ofRatio?_rounded negative positive size
  rw [chosen] at read
  obtain ⟨whole, larger⟩ := size_of_rounded negative read
  have units := two_pow_pos (unit q)
  calc |x.size - q| = |(mantissa : Rat) - q * 2 ^ (-unit q)| * 2 ^ unit q := by
        conv_rhs => rw [← abs_of_pos units, ← abs_mul, sub_mul, mul_unit]
        rw [whole]
    _ ≤ 1 / 2 * 2 ^ unit q := mul_le_mul_of_nonneg_right rounded.error units.le
    _ ≤ 1 / 2 * 2 ^ x.exponent :=
        mul_le_mul_of_nonneg_left (zpow_le_zpow_right₀ (by norm_num) larger) (by norm_num)
    _ = 2 ^ x.exponent / 2 := by ring

/-- The size in the middle between the largest number and the power of two that comes after it. -/
def overflow : Rat := (mantissaBound - 1 / 2) * 2 ^ (971 : Int)

theorem overflow_le_of_unit (positive : 0 < q) (large : 971 < unit q) : overflow ≤ q := by
  have normal := (le_units positive).resolve_right (by omega)
  have next : (2 : Rat) ^ (972 : Int) = 2 ^ (971 : Int) * 2 := zpow_add_one₀ (by norm_num) 971
  have twice : (mantissaBound : Rat) = leastNormal * 2 := by norm_num [mantissaBound, leastNormal]
  have half : (0 : Rat) ≤ 1 / 2 := by norm_num
  calc overflow ≤ mantissaBound * 2 ^ (971 : Int) :=
        mul_le_mul_of_nonneg_right (sub_le_self _ half) (two_pow_pos 971).le
    _ = leastNormal * 2 ^ (972 : Int) := by rw [twice, next, mul_assoc, mul_comm (2 : Rat)]
    _ ≤ leastNormal * 2 ^ unit q :=
        mul_le_mul_of_nonneg_left (zpow_le_zpow_right₀ (by norm_num) large) (Nat.cast_nonneg _)
    _ ≤ q * 2 ^ (-unit q) * 2 ^ unit q := mul_le_mul_of_nonneg_right normal (two_pow_pos _).le
    _ = q := mul_unit q

theorem unit_of_overflow_le (above : overflow ≤ q) : 971 ≤ unit q := by
  refine not_lt.mp fun less => ?_
  have next : (2 : Rat) ^ (971 : Int) = 2 ^ (970 : Int) * 2 := zpow_add_one₀ (by norm_num) 970
  have below : ((mantissaBound : Rat) - 1 / 2) * 2 * 2 ^ (970 : Int) <
      mantissaBound * 2 ^ (970 : Int) :=
    calc ((mantissaBound : Rat) - 1 / 2) * 2 * 2 ^ (970 : Int) = overflow := by
          rw [overflow, next, mul_assoc, mul_comm (2 : Rat)]
      _ ≤ q := above
      _ = q * 2 ^ (-unit q) * 2 ^ unit q := (mul_unit q).symm
      _ < mantissaBound * 2 ^ unit q := mul_lt_mul_of_pos_right (units_lt q) (two_pow_pos _)
      _ ≤ mantissaBound * 2 ^ (970 : Int) :=
        mul_le_mul_of_nonneg_left (zpow_le_zpow_right₀ (by norm_num) (Int.lt_add_one_iff.mp less))
          (Nat.cast_nonneg _)
  have halved := lt_of_mul_lt_mul_right below (two_pow_pos 970).le
  norm_num [mantissaBound] at halved

/-- No number comes out for the sizes from there on. -/
theorem ofRatio?_eq_none {num den : Nat} (negative : Bool) (positive : 0 < num ∧ 0 < den)
    (size : (num : Rat) / den = q) : ofRatio? negative num den = none ↔ overflow ≤ q := by
  obtain ⟨mantissa, rounded, chosen⟩ := ofRatio?_rounded negative positive size
  have low : -1074 ≤ unit q := le_max_right _ _
  have bounded := rounded.bounded
  have past : ofRatio? negative num den = none ↔
      971 < unit q ∨ unit q = 971 ∧ mantissa = mantissaBound := by
    rw [chosen]
    split
    next carry =>
      rw [ofParts?_eq_none negative (by decide) (by omega) (.inl le_rfl)]
      omega
    next small =>
      rw [ofParts?_eq_none negative (by omega) low rounded.normal]
      omega
  rw [past]
  constructor
  · rintro (more | ⟨last, carry⟩)
    · refine overflow_le_of_unit ?_ more
      rw [← size]
      exact div_pos (by exact_mod_cast positive.1) (by exact_mod_cast positive.2)
    · have error := (abs_le.mp rounded.error).2
      have units := mul_unit q
      rw [carry, last] at error
      rw [last] at units
      rw [overflow, ← units]
      exact mul_le_mul_of_nonneg_right (sub_le_comm.mp error) (two_pow_pos 971).le
  · intro above
    rcases (unit_of_overflow_le above).lt_or_eq with more | last
    · exact .inl more
    · have top : ((mantissaBound : Nat) : Rat) - 1 / 2 ≤ q * 2 ^ (-unit q) := by
        refine le_of_mul_le_mul_right ?_ (two_pow_pos (unit q))
        rw [mul_unit, ← last]
        exact above
      exact .inr ⟨last.symm, Nat.le_antisymm bounded (rounded.even _ (by decide) top)⟩

theorem word_lt_overflow : 2 ^ (64 : Int) < overflow := by
  have mantissa : (1 : Rat) < mantissaBound - 1 / 2 := by norm_num [mantissaBound]
  have units : (2 : Rat) ^ (64 : Int) ≤ 2 ^ (971 : Int) :=
    zpow_le_zpow_right₀ (by norm_num) (by decide)
  rw [overflow]
  exact units.trans_lt (lt_mul_of_one_lt_left (two_pow_pos 971) mantissa)

theorem largest_place : 10 ^ 308 ≤ (mantissaBound - 1) * 2 ^ 971 := by decide +kernel

theorem largest_place_lt_overflow : 10 ^ (308 : Int) < overflow := by
  have largest : (10 : Rat) ^ (308 : Int) ≤ (mantissaBound - 1 : Nat) * 2 ^ (971 : Int) := by
    exact_mod_cast largest_place
  refine largest.trans_lt (mul_lt_mul_of_pos_right ?_ (two_pow_pos 971))
  norm_num [mantissaBound]

theorem overflow_le : overflow ≤ 10 ^ (309 : Int) := by
  have largest : (mantissaBound : Rat) * 2 ^ (971 : Int) ≤ 10 ^ (309 : Int) := by
    exact_mod_cast largest_size
  refine le_trans (mul_le_mul_of_nonneg_right ?_ (two_pow_pos 971).le) largest
  exact sub_le_self _ (by norm_num)

theorem nearest?_inside (negative : Bool) (nonzero : d.coeff ≠ 0) (low : -324 ≤ d.magnitude)
    (high : d.magnitude ≤ 310) :
    nearest? negative d = ofRatio? negative (scaleDecimal d.coeff.natAbs 1 (-d.scale)).1
      (scaleDecimal d.coeff.natAbs 1 (-d.scale)).2 := by
  rw [nearest?, if_neg (by omega), if_neg (by omega)]

theorem nearest?_eq_none (negative : Bool) (d : Decimal) :
    nearest? negative d = none ↔ overflow ≤ |d.value| := by
  by_cases tiny : d.coeff = 0 ∨ d.magnitude < -324
  · rw [nearest?, if_pos tiny]
    have small : |d.value| < 1 := by
      rcases tiny with zero | small
      · rw [d.abs_value_eq_zero.mpr zero]
        exact one_pos
      · exact d.abs_value_lt.trans_le (zpow_le_one_of_nonpos₀ (by norm_num) (by omega))
    have one : (1 : Rat) < 2 ^ (64 : Int) := by norm_num
    exact iff_of_false (Option.some_ne_none _) (small.trans (one.trans word_lt_overflow)).not_ge
  obtain ⟨nonzero, low⟩ := not_or.mp tiny
  by_cases huge : 310 < d.magnitude
  · rw [nearest?, if_neg tiny, if_pos huge]
    refine iff_of_true rfl ?_
    calc overflow ≤ 10 ^ (309 : Int) := overflow_le
      _ ≤ 10 ^ (d.magnitude - 1) := zpow_le_zpow_right₀ (by norm_num) (by omega)
      _ ≤ |d.value| := Decimal.le_abs_value nonzero
  · rw [nearest?_inside negative nonzero (not_lt.mp low) (not_lt.mp huge)]
    exact ofRatio?_eq_none negative (Decimal.scaled_pos nonzero) d.scaled_ratio

theorem negative_of_nearest? {negative : Bool} (read : nearest? negative d = some x) :
    x.negative = negative := by
  unfold nearest? at read
  split at read
  · cases read
    rfl
  split at read
  · cases read
  unfold ofRatio? at read
  dsimp only at read
  split at read
  · exact (ofParts?_eq_some read).1
  · exact (ofParts?_eq_some read).1

/-- Rounding changes a size by half a unit at most. -/
theorem nearest?_error {negative : Bool} (ordinary : ¬(d.coeff = 0 ∨ d.magnitude < -324))
    (read : nearest? negative d = some x) : |x.size - (|d.value|)| ≤ 2 ^ x.exponent / 2 := by
  obtain ⟨nonzero, low⟩ := not_or.mp ordinary
  by_cases huge : 310 < d.magnitude
  · rw [nearest?, if_neg ordinary, if_pos huge] at read
    cases read
  · rw [nearest?_inside negative nonzero (not_lt.mp low) (not_lt.mp huge)] at read
    exact ofRatio?_error (Decimal.scaled_pos nonzero) d.scaled_ratio read

theorem nearest?_error_of_mantissa {negative : Bool} (nonzero : x.mantissa ≠ 0)
    (read : nearest? negative d = some x) : |x.size - (|d.value|)| ≤ 2 ^ x.exponent / 2 := by
  refine nearest?_error (fun tiny => nonzero ?_) read
  rw [nearest?, if_pos tiny] at read
  exact congrArg mantissa (Option.some.inj read).symm

theorem least_normal_size : 10 ^ 307 ≤ 2 ^ 1022 := by decide +kernel

/-- Decimals that are not too small are rounded to a full mantissa. -/
theorem leastNormal_le {negative : Bool} (nonzero : d.coeff ≠ 0) (ordinary : -306 ≤ d.magnitude)
    (read : nearest? negative d = some x) : leastNormal ≤ x.mantissa := by
  have error := (abs_le.mp (nearest?_error (by omega) read)).1
  refine x.normal.elim id fun subnormal => ?_
  rw [size, subnormal] at error
  have normal : (leastNormal : Rat) = 2 ^ (52 : Int) := by norm_num [leastNormal]
  have step : (leastNormal : Rat) * 2 ^ (-1074 : Int) ≤
      (x.mantissa + 1 / 2) * 2 ^ (-1074 : Int) :=
    calc (leastNormal : Rat) * 2 ^ (-1074 : Int) = 2 ^ (-1022 : Int) := by
          rw [normal, ← zpow_add₀ (by norm_num)]
          rfl
      _ ≤ 10 ^ (-307 : Int) := by
          rw [zpow_neg, zpow_neg]
          exact inv_anti₀ (by positivity) (by exact_mod_cast least_normal_size)
      _ ≤ 10 ^ (d.magnitude - 1) := zpow_le_zpow_right₀ (by norm_num) (by omega)
      _ ≤ |d.value| := Decimal.le_abs_value nonzero
      _ ≤ (x.mantissa + 1 / 2) * 2 ^ (-1074 : Int) := by linarith
  have near := le_of_mul_le_mul_right step (two_pow_pos _)
  exact le_of_cast_lt (by linarith)

end Binary64
end RecordQuery
