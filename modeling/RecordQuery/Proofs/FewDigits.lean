import Mathlib.Data.Nat.Cast.Order.Field
import RecordQuery.Proofs.Nearest
import RecordQuery.Proofs.Shortest

/-! Decimals of up to fifteen digits. They are farther apart than the binary64 numbers to which they
are rounded, so the shortest text that reads as such a number has the value of the decimal. -/
namespace RecordQuery

theorem quotient_digits {num den : Nat} (right : 0 < den) (whole : den ≤ num) :
    (10 : Rat) ^ ((digitCount (num / den) : Int) - 1) ≤ num / den ∧
      (num : Rat) / den < 10 ^ (digitCount (num / den) : Int) := by
  have positive : (0 : Rat) < den := by exact_mod_cast right
  have nonzero : num / den ≠ 0 := (Nat.div_pos whole right).ne'
  have one : 1 ≤ digitCount (num / den) := Nat.length_toDigits_pos
  have exponent : (digitCount (num / den) : Int) - 1 = (digitCount (num / den) - 1 : Nat) := by
    omega
  constructor
  · rw [exponent, zpow_natCast]
    calc (10 : Rat) ^ (digitCount (num / den) - 1) ≤ (num / den : Nat) := by
          exact_mod_cast pow_digitCount_le nonzero
      _ ≤ num / den := Nat.cast_div_le
  · rw [zpow_natCast, div_lt_iff₀ positive]
    have less : num < 10 ^ digitCount (num / den) * den :=
      (Nat.div_lt_iff_lt_mul right).mp (lt_pow_digitCount _)
    exact_mod_cast less

/-- The leading digit of a quotient stands in that place or in the next one. -/
theorem leadingDigit_bounds {num den : Nat} (left : 0 < num) (right : 0 < den) :
    (10 : Rat) ^ Binary64.leadingDigit num den ≤ num / den ∧
      (num : Rat) / den ≤ 10 ^ (Binary64.leadingDigit num den + 1) := by
  unfold Binary64.leadingDigit
  split
  next whole =>
    obtain ⟨low, high⟩ := quotient_digits right whole
    rw [sub_add_cancel]
    exact ⟨low, high.le⟩
  next part =>
    obtain ⟨low, high⟩ := quotient_digits left (Nat.le_of_not_le part)
    have positive : (0 : Rat) < den / num :=
      div_pos (by exact_mod_cast right) (by exact_mod_cast left)
    have exponent : -(digitCount (den / num) : Int) + 1 = -((digitCount (den / num) : Int) - 1) := by
      omega
    rw [← inv_div, exponent, zpow_neg, zpow_neg]
    exact ⟨inv_anti₀ positive high.le, inv_anti₀ (zpow_pos (by norm_num) _) low⟩

/-- What a search in a range finds is there for the first time. -/
theorem first_of_findSome? {f : Nat → Option α} {a : α} {bound : Nat}
    (found : (List.range bound).findSome? f = some a) :
    ∃ first, f first = some a ∧ ∀ n < first, f n = none := by
  obtain ⟨before, first, after, split, here, missed⟩ := List.findSome?_eq_some_iff.mp found
  refine ⟨first, here, fun n less => missed n ?_⟩
  have ascending := List.pairwise_lt_range (n := bound)
  have inside : first < bound := List.mem_range.mp (by simp [split])
  have member : n ∈ List.range bound := List.mem_range.mpr (less.trans inside)
  rw [split] at ascending member
  refine (List.mem_append.mp member).resolve_right fun later => ?_
  rcases List.mem_cons.mp later with rfl | later
  · exact less.false
  · exact less.asymm (List.rel_of_pairwise_cons (List.pairwise_append.mp ascending).2.1 later)

namespace Binary64

variable {x : Binary64} {k m : Nat} {scale : Int}

theorem mantissa_ne_zero (normal : leastNormal ≤ x.mantissa) : x.mantissa ≠ 0 :=
  (Nat.lt_of_lt_of_le (by decide : 0 < leastNormal) normal).ne'

/-- A full mantissa is a number of sixteen digits. -/
theorem units_le_size (normal : leastNormal ≤ x.mantissa) :
    4 * 10 ^ 15 * 2 ^ x.exponent ≤ x.size := by
  have digits : 4 * 10 ^ 15 ≤ x.mantissa := le_trans (by decide) normal
  exact mul_le_mul_of_nonneg_right (by exact_mod_cast digits) (two_pow_pos _).le

theorem error_of_reads (normal : leastNormal ≤ x.mantissa)
    (reads : nearest? x.negative ⟨k, scale⟩ = some x) :
    |x.size - k * 10 ^ (-scale)| ≤ 2 ^ x.exponent / 2 := by
  have error := nearest?_error_of_mantissa (mantissa_ne_zero normal) reads
  rwa [Decimal.abs_value, Int.natAbs_natCast] at error

/-- The last of fifteen digits counts more than two units. -/
theorem unit_lt_place (few : k < 10 ^ 15) (normal : leastNormal ≤ x.mantissa)
    (reads : nearest? x.negative ⟨k, scale⟩ = some x) :
    2 * 2 ^ x.exponent < (10 : Rat) ^ (-scale) := by
  have error := (abs_le.mp (error_of_reads normal reads)).2
  have digits : (k : Rat) * 10 ^ (-scale) < 10 ^ 15 * 10 ^ (-scale) :=
    mul_lt_mul_of_pos_right (by exact_mod_cast few) (zpow_pos (by norm_num) _)
  have units := units_le_size normal
  have unit := two_pow_pos x.exponent
  linarith

/-- Two numerals for one place that read as the same number are the same if one of them has at most
fifteen digits. -/
theorem eq_of_reads (few : k < 10 ^ 15) (normal : leastNormal ≤ x.mantissa)
    (reads : nearest? x.negative ⟨k, scale⟩ = some x)
    (reads' : nearest? x.negative ⟨m, scale⟩ = some x) : m = k := by
  have place : (0 : Rat) < 10 ^ (-scale) := zpow_pos (by norm_num) _
  have unit := unit_lt_place few normal reads
  have error := abs_le.mp (error_of_reads normal reads)
  have error' := abs_le.mp (error_of_reads normal reads')
  refine eq_of_abs_sub_lt (lt_of_mul_lt_mul_right ?_ place.le)
  rw [← abs_of_pos place, ← abs_mul, sub_mul, abs_of_pos place, abs_lt]
  constructor <;> linarith

theorem ratio_size (x : Binary64) : (x.ratio.1 : Rat) / x.ratio.2 = x.size := by
  rw [ratio, scaleBinary_ratio, Nat.cast_one, div_one, size]

theorem ratio_pos (nonzero : x.mantissa ≠ 0) : 0 < x.ratio.1 ∧ 0 < x.ratio.2 :=
  ⟨Nat.mul_pos (Nat.pos_of_ne_zero nonzero) (Nat.pow_pos (by decide)),
    scaleBinary_pos _ (by decide) _⟩

theorem onGrid?_of_reads (few : k < 10 ^ 15) (normal : leastNormal ≤ x.mantissa)
    (reads : nearest? x.negative ⟨k, scale⟩ = some x) :
    x.onGrid? scale = some (stripZeros k scale) := by
  have nonzero := mantissa_ne_zero normal
  have nearer : roundHalfEven (scaleDecimal x.ratio.1 x.ratio.2 scale).1
      (scaleDecimal x.ratio.1 x.ratio.2 scale).2 = k := by
    refine roundHalfEven_eq (scaleDecimal_pos _ (ratio_pos nonzero).2 _) ?_
    rw [scaleDecimal_ratio, ratio_size]
    have place : (0 : Rat) < 10 ^ (-scale) := zpow_pos (by norm_num) _
    have unit := unit_lt_place few normal reads
    have error := abs_le.mp (error_of_reads normal reads)
    have back : x.size * 10 ^ scale * 10 ^ (-scale) = x.size := by
      rw [mul_assoc, ← zpow_add₀ (by norm_num), add_neg_cancel, zpow_zero, mul_one]
    refine lt_of_mul_lt_mul_right ?_ place.le
    rw [← abs_of_pos place, ← abs_mul, sub_mul, abs_of_pos place, back, abs_lt]
    constructor <;> linarith
  have found : x.readsBack k scale = true := beq_iff_eq.mpr reads
  simp only [onGrid?]
  rw [nearer, if_pos found]

/-- A numeral of few digits on one of the grids that are searched is found there or before. -/
theorem shortest_of_reads {n : Nat} (near : n < 18) (few : k < 10 ^ 15)
    (normal : leastNormal ≤ x.mantissa)
    (reads : nearest? x.negative ⟨k, n - leadingDigit x.ratio.1 x.ratio.2⟩ = some x) :
    x.shortest.value = (⟨k, n - leadingDigit x.ratio.1 x.ratio.2⟩ : Decimal).value := by
  let lead := leadingDigit x.ratio.1 x.ratio.2
  let search := (List.range 18).findSome? fun (n : Nat) => x.onGrid? (n - lead)
  have unfolded : x.shortest = search.getD x.exact := by
    rw [shortest, List.findSome?_map]
    rfl
  have here := onGrid?_of_reads few normal reads
  cases found : search with
  | none =>
    have missed := List.findSome?_eq_none_iff.mp found n (List.mem_range.mpr near)
    cases here.symm.trans missed
  | some d =>
    obtain ⟨first, grid, missed⟩ := first_of_findSome? found
    have order : first ≤ n := not_lt.mp fun less => nomatch here.symm.trans (missed n less)
    obtain ⟨digits, back, rfl⟩ := onGrid?_reads grid
    have finer : (⟨(digits * 10 ^ (n - first) : Nat), n - lead⟩ : Decimal).value =
        (⟨digits, first - lead⟩ : Decimal).value := by
      have place : (n : Int) - lead - (n - first : Nat) = first - lead := by omega
      rw [← place, ← Decimal.value_shift]
      push_cast
      rfl
    have reads' := (nearest?_congr x.negative (congrArg abs finer)).trans (beq_iff_eq.mp back)
    rw [unfolded, found, Option.getD_some, stripZeros_value, ← finer,
      eq_of_reads few normal reads reads']

/-- A decimal is less than twice as large as the number to which it is rounded, or the reverse. -/
theorem size_near (normal : leastNormal ≤ x.mantissa)
    (reads : nearest? x.negative ⟨k, scale⟩ = some x) :
    x.size ≤ 2 * (k * 10 ^ (-scale)) ∧ k * 10 ^ (-scale) ≤ 2 * x.size := by
  have error := abs_le.mp (error_of_reads normal reads)
  have units := units_le_size normal
  have unit := two_pow_pos x.exponent
  constructor <;> linarith

theorem lead_lt {lead : Int} (few : k < 10 ^ 15) (low : 10 ^ lead ≤ x.size)
    (near : x.size ≤ 2 * (k * 10 ^ (-scale))) : lead < 16 - scale := by
  have place : (0 : Rat) < 10 ^ (-scale) := zpow_pos (by norm_num) _
  have digits : (k : Rat) < 10 ^ 15 := by exact_mod_cast few
  refine (zpow_lt_zpow_iff_right₀ (by norm_num : (1 : Rat) < 10)).mp ?_
  calc (10 : Rat) ^ lead ≤ 2 * k * 10 ^ (-scale) := by linarith
    _ < 10 ^ (16 : Int) * 10 ^ (-scale) := mul_lt_mul_of_pos_right (by linarith) place
    _ = 10 ^ (16 - scale) := (zpow_add₀ (by norm_num) 16 (-scale)).symm

theorem padded_few {lead : Int} {zeros : Nat} (place : -lead - (zeros : Int) = scale)
    (high : x.size ≤ 10 ^ (lead + 1)) (near : k * 10 ^ (-scale) ≤ 2 * x.size) :
    k * 10 ^ zeros < 10 ^ 15 := by
  have unit : (0 : Rat) < 10 ^ lead := zpow_pos (by norm_num) _
  have exponent : -scale = zeros + lead := by omega
  have few : (k * 10 ^ zeros : Rat) < 10 ^ 15 := by
    refine lt_of_mul_lt_mul_right ?_ unit.le
    calc (k * 10 ^ zeros : Rat) * 10 ^ lead = k * 10 ^ (-scale) := by
          rw [exponent, zpow_add₀ (by norm_num), zpow_natCast, mul_assoc]
      _ ≤ 2 * 10 ^ (lead + 1) := by linarith
      _ = 20 * 10 ^ lead := by
          rw [zpow_add_one₀ (by norm_num)]
          ring
      _ < 10 ^ 15 * 10 ^ lead := mul_lt_mul_of_pos_right (by norm_num) unit
  exact_mod_cast few

/-- A decimal of few digits has the value of the shortest one for the number it is rounded to. -/
theorem shortest_of_few (few : k < 10 ^ 15) (normal : leastNormal ≤ x.mantissa)
    (reads : nearest? x.negative ⟨k, scale⟩ = some x) :
    x.shortest.value = (⟨k, scale⟩ : Decimal).value := by
  have positive := ratio_pos (mantissa_ne_zero normal)
  obtain ⟨low, high⟩ := leadingDigit_bounds positive.1 positive.2
  obtain ⟨below, above⟩ := size_near normal reads
  rw [ratio_size] at low high
  let lead := leadingDigit x.ratio.1 x.ratio.2
  -- the decimal is on one of the grids, or with zeros behind it on the coarsest of them
  rcases le_or_gt 0 (scale + lead) with inside | front
  · have grid : ((scale + lead).toNat : Int) - lead = scale := by omega
    have fewer := lead_lt few low below
    have found := shortest_of_reads (n := (scale + lead).toNat) (by omega) few normal
    rw [grid] at found
    exact found reads
  · let zeros := (-(scale + lead)).toNat
    have place : -lead - (zeros : Int) = scale := by omega
    have same : (⟨(k * 10 ^ zeros : Nat), -lead⟩ : Decimal).value =
        (⟨k, scale⟩ : Decimal).value := by
      rw [← place, ← Decimal.value_shift]
      push_cast
      rfl
    have found := shortest_of_reads (n := 0) (by decide) (padded_few place high above) normal
    rw [Nat.cast_zero, zero_sub] at found
    rw [← same]
    exact found ((nearest?_congr x.negative (congrArg abs same)).trans reads)

end Binary64
end RecordQuery
