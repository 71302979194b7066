import RecordQuery.Json.Number
import RecordQuery.Proofs.Digits
import RecordQuery.Proofs.Rounding

/-! The decimal that a binary64 number is written as rounds to that number again. -/
namespace RecordQuery

theorem stripZeros_value (digits : Nat) (scale : Int) :
    (stripZeros digits scale).value = (⟨digits, scale⟩ : Decimal).value := by
  let tail := ((numeral digits).reverse.takeWhile (· = '0')).length
  have whole : digits / 10 ^ tail * 10 ^ tail = digits :=
    Nat.div_mul_cancel (pow_trailing_dvd digits)
  have stripped : stripZeros digits scale = ⟨(digits / 10 ^ tail : Nat), scale - tail⟩ := rfl
  rw [stripped, ← Decimal.value_shift]
  congr 2
  exact_mod_cast whole

namespace Binary64

variable {x : Binary64} {d d' : Decimal}

/-- A positive decimal that is rounded to the absolute value of the number. -/
structure Written (x : Binary64) (d : Decimal) : Prop where
  positive : 0 < d.coeff
  rounds : nearest? x.negative d = some x

theorem Written.of_value (written : x.Written d) (same : d'.value = d.value) : x.Written d' where
  positive := by
    rw [← Decimal.value_pos, same, Decimal.value_pos]
    exact written.positive
  rounds := (nearest?_congr x.negative (congrArg abs same)).trans written.rounds

theorem written_of_rounds (nonzero : x.mantissa ≠ 0) (coeff : 0 ≤ d.coeff)
    (rounds : nearest? x.negative d = some x) : x.Written d := by
  refine ⟨lt_of_le_of_ne coeff fun zero => nonzero ?_, rounds⟩
  rw [nearest?, if_pos (.inl zero.symm)] at rounds
  exact congrArg mantissa (Option.some.inj rounds).symm

theorem written_stripZeros (nonzero : x.mantissa ≠ 0) {digits : Nat} {scale : Int}
    (reads : x.readsBack digits scale = true) : x.Written (stripZeros digits scale) :=
  (written_of_rounds nonzero (Int.natCast_nonneg digits) (eq_of_beq reads)).of_value
    (stripZeros_value digits scale)

/-- What is found on a grid is a point of it that reads back. -/
theorem onGrid?_reads {scale : Int} (found : x.onGrid? scale = some d) :
    ∃ digits : Nat, x.readsBack digits scale = true ∧ d = stripZeros digits scale := by
  simp only [onGrid?] at found
  split at found
  · rename_i reads
    exact ⟨_, reads, (Option.some.inj found).symm⟩
  split at found
  · rename_i reads
    exact ⟨_, reads, (Option.some.inj found).symm⟩
  split at found
  · rename_i reads
    exact ⟨_, reads, (Option.some.inj found).symm⟩
  · cases found

theorem written_onGrid (nonzero : x.mantissa ≠ 0) {scale : Int}
    (found : x.onGrid? scale = some d) : x.Written d := by
  obtain ⟨digits, reads, rfl⟩ := onGrid?_reads found
  exact written_stripZeros nonzero reads

theorem exact_value (x : Binary64) : x.exact.value = x.size := by
  unfold exact
  split
  · rename_i whole
    have exponent : x.exponent = (x.exponent.toNat : Int) := by omega
    rw [stripZeros_value, Decimal.value_eq, size]
    conv_rhs => rw [exponent, zpow_natCast]
    simp
  · rename_i fraction
    have exponent : x.exponent = -((-x.exponent).toNat : Int) := by omega
    have scale : -(-x.exponent) = -((-x.exponent).toNat : Int) := by omega
    have ten : (10 : Rat) = 2 * 5 := by norm_num
    have five : (5 : Rat) ^ (-x.exponent).toNat ≠ 0 := by positivity
    rw [stripZeros_value, Decimal.value_eq, size]
    dsimp only
    rw [scale]
    conv_rhs => rw [exponent]
    rw [zpow_neg, zpow_neg, zpow_natCast, zpow_natCast, ten, mul_pow, mul_inv]
    push_cast
    field_simp
    rw [Nat.pow_eq, Nat.cast_pow, Nat.cast_ofNat]

theorem written_exact (nonzero : x.mantissa ≠ 0) : x.Written x.exact where
  positive := by
    rw [← Decimal.value_pos, exact_value]
    exact size_pos nonzero
  rounds := by
    apply nearest?_exact nonzero
    rw [exact_value, abs_of_pos (size_pos nonzero)]

theorem written_shortest (nonzero : x.mantissa ≠ 0) : x.Written x.shortest := by
  let grids := (List.range 18).map fun (n : Nat) => (n : Int) - leadingDigit x.ratio.1 x.ratio.2
  have unfolded : x.shortest = (grids.findSome? x.onGrid?).getD x.exact := rfl
  cases found : grids.findSome? x.onGrid? with
  | none =>
    rw [unfolded, found]
    exact written_exact nonzero
  | some d =>
    obtain ⟨scale, -, onGrid⟩ := List.exists_of_findSome?_eq_some found
    rw [unfolded, found]
    exact written_onGrid nonzero onGrid

theorem abs_value_withSign (x : Binary64) (d : Decimal) : |(x.withSign d).value| = |d.value| := by
  unfold withSign
  split
  · rw [Decimal.value_neg_coeff, abs_neg]
  · rfl

theorem coeff_withSign (positive : 0 < d.coeff) :
    (x.withSign d).coeff ≠ 0 ∧ decide ((x.withSign d).coeff < 0) = x.negative := by
  unfold withSign
  split
  · rename_i negative
    constructor
    · exact neg_ne_zero.mpr positive.ne'
    · rw [negative, decide_eq_true_iff]
      exact Int.neg_neg_of_pos positive
  · rename_i unsigned
    constructor
    · exact positive.ne'
    · rw [eq_false_of_ne_true unsigned, decide_eq_false_iff_not]
      exact positive.not_gt

end Binary64

namespace Json.Number

variable {x : Binary64}

theorem spelled_zero (zero : x.mantissa = 0) : (spelled x).value = 0 := by
  have real : x.isZero = true := beq_iff_eq.mpr zero
  rw [spelled, if_pos real]
  exact Decimal.value_of_zero rfl

/-- Zeros at the end do not change the value that is spelled. -/
theorem spelled_padded (nonzero : x.mantissa ≠ 0) :
    ∃ d, spelled x = x.withSign d ∧ d.value = x.shortest.value := by
  have real : x.isZero = false := beq_false_of_ne nonzero
  let d := x.shortest
  let padded : Decimal :=
    if isPositional d ∧ d.scale ≤ 0 then ⟨d.coeff * Nat.pow 10 (1 - d.scale).toNat, 1⟩ else d
  refine ⟨padded, ?_, ?_⟩
  · simp only [spelled, real]
    rfl
  · unfold padded
    split
    · rename_i whole
      have scale : 1 - ((1 - d.scale).toNat : Int) = d.scale := by omega
      have shifted := Decimal.value_shift d.coeff (1 - d.scale).toNat 1
      rw [scale] at shifted
      exact_mod_cast shifted
    · rfl

theorem abs_value_spelled (nonzero : x.mantissa ≠ 0) :
    |(spelled x).value| = |x.shortest.value| := by
  obtain ⟨d, same, value⟩ := spelled_padded nonzero
  rw [same, Binary64.abs_value_withSign, value]

/-- The text of a number other than zero has its sign and rounds to it. -/
theorem spelled_rounds (nonzero : x.mantissa ≠ 0) :
    (spelled x).coeff ≠ 0 ∧ decide ((spelled x).coeff < 0) = x.negative ∧
      Binary64.nearest? x.negative (spelled x) = some x := by
  obtain ⟨d, same, value⟩ := spelled_padded nonzero
  have written : x.Written d := (Binary64.written_shortest nonzero).of_value value
  have signs := Binary64.coeff_withSign (x := x) written.positive
  rw [same]
  refine ⟨signs.1, signs.2, ?_⟩
  rw [Binary64.nearest?_congr x.negative (Binary64.abs_value_withSign x d)]
  exact written.rounds

end Json.Number
end RecordQuery
