import RecordQuery.Proofs.DecimalText
import RecordQuery.Proofs.FewDigits
import RecordQuery.Proofs.ValueOrder
import RecordQuery.Value.Json

/-! Decimals that are written as JSON and read back. The text of a decimal is read as a JSON number,
which is an integer of 64 bits or else rounded to a binary64 number, and that is spelled in its
fewest digits when it is read. -/
namespace RecordQuery

namespace Decimal

variable {d : Decimal}

/-- The text of the decimal is an integer that takes 64 bits. -/
def IsWord (d : Decimal) : Prop := d.scale ≤ 0 ∧ -15 ≤ d.scale ∧ fitsWord d.integer = true

/-- What comes back for the decimal from its JSON. -/
def sent (d : Decimal) : Value :=
  match Json.Number.ofDecimal? d with
  | some n => .number n.toDecimal
  | none => .text d.toText

theorem ofJson_toJson (d : Decimal) : Value.ofJson (Value.number d).toJson = .ok d.sent := by
  simp only [Value.toJson, sent]
  cases Json.Number.ofDecimal? d <;> rfl

/-- Some binary64 number is spelled with the value. -/
def IsSpelled (d : Decimal) : Prop := ∃ x : Binary64, (Json.Number.spelled x).value = d.value

theorem sent_zero (zero : d.coeff = 0) : d.sent = .number (.ofInt 0) := by
  rw [sent, ofDecimal?_zero zero]
  rfl

theorem sent_word (nonzero : d.coeff ≠ 0) (word : d.IsWord) :
    d.sent = .number (.ofInt d.integer) := by
  have whole := ofDecimal?_eq nonzero
  unfold IsWord at word
  rw [if_pos word] at whole
  rw [sent, whole]
  rfl

theorem sent_rounded (nonzero : d.coeff ≠ 0) (other : ¬d.IsWord) :
    d.sent = match Binary64.nearest? (d.coeff < 0) d with
      | some x => .number (Json.Number.spelled x)
      | none => .text d.toText := by
  have rounded := ofDecimal?_eq nonzero
  unfold IsWord at other
  rw [if_neg other] at rounded
  rw [sent, rounded]
  cases Binary64.nearest? (d.coeff < 0) d <;> rfl

theorem nearest?_of_spelled {x : Binary64} (nonzero : d.coeff ≠ 0)
    (same : (Json.Number.spelled x).value = d.value) :
    Binary64.nearest? (d.coeff < 0) d = some x := by
  have mantissa : x.mantissa ≠ 0 := fun zero =>
    nonzero (d.abs_value_eq_zero.mp (by rw [← same, Json.Number.spelled_zero zero, abs_zero]))
  obtain ⟨-, sign, rounds⟩ := Json.Number.spelled_rounds mantissa
  have negative : decide (d.coeff < 0) = x.negative := by
    rw [← sign, decide_eq_decide, ← value_neg, ← value_neg, same]
  rw [negative, Binary64.nearest?_congr _ (congrArg abs same.symm)]
  exact rounds

theorem isSpelled_zero (zero : d.coeff = 0) : d.IsSpelled :=
  ⟨.zero false, (Json.Number.spelled_zero rfl).trans (value_of_zero zero).symm⟩

/-- The decimals that come back with the value they had. -/
theorem sent_same_iff (d : Decimal) :
    (∃ e, d.sent = .number e ∧ e.value = d.value) ↔ d.IsWord ∨ d.IsSpelled := by
  by_cases zero : d.coeff = 0
  · have value : (ofInt 0).value = d.value := (value_of_zero rfl).trans (value_of_zero zero).symm
    exact iff_of_true ⟨_, sent_zero zero, value⟩ (.inr (isSpelled_zero zero))
  by_cases word : d.IsWord
  · exact iff_of_true ⟨_, sent_word zero word, integer_value word.1⟩ (.inl word)
  have rounded := sent_rounded zero word
  constructor
  · rintro ⟨e, came, same⟩
    rw [came] at rounded
    split at rounded
    next x _ =>
      obtain rfl := Value.number.inj rounded
      exact .inr ⟨x, same⟩
    next => cases rounded
  · rintro (_ | ⟨x, same⟩)
    · contradiction
    · rw [nearest?_of_spelled zero same] at rounded
      exact ⟨_, rounded, same⟩

theorem abs_value_word (word : d.IsWord) : |d.value| < Binary64.overflow := by
  obtain ⟨whole, -, fits⟩ := word
  obtain ⟨low, high⟩ := Bool.and_eq_true_iff.mp fits
  have low : -9223372036854775808 ≤ d.integer := of_decide_eq_true low
  have high : d.integer ≤ 18446744073709551615 := of_decide_eq_true high
  have inside : d.integer.natAbs ≤ 2 ^ 64 := by omega
  have size : |d.value| ≤ 2 ^ (64 : Int) := by
    rw [← integer_value whole, abs_value, neg_zero, zpow_zero, mul_one]
    exact_mod_cast inside
  exact size.trans_lt Binary64.word_lt_overflow

/-- The decimals that come back as texts. -/
theorem sent_text_iff (d : Decimal) :
    d.sent = .text d.toText ↔ Binary64.overflow ≤ |d.value| := by
  by_cases zero : d.coeff = 0
  · have size : |d.value| < Binary64.overflow := by
      rw [d.abs_value_eq_zero.mpr zero]
      exact (two_pow_pos 64).trans Binary64.word_lt_overflow
    rw [sent_zero zero]
    exact iff_of_false nofun size.not_ge
  by_cases word : d.IsWord
  · rw [sent_word zero word]
    exact iff_of_false nofun (abs_value_word word).not_ge
  rw [sent_rounded zero word, ← Binary64.nearest?_eq_none (d.coeff < 0) d]
  cases Binary64.nearest? (d.coeff < 0) d <;> simp

theorem value_eq_of_abs {e : Decimal} (size : |e.value| = |d.value|)
    (sign : e.coeff < 0 ↔ d.coeff < 0) : e.value = d.value := by
  rw [← value_neg, ← value_neg] at sign
  rcases abs_eq_abs.mp size with same | opposite
  · exact same
  · rcases lt_trichotomy d.value 0 with negative | zero | positive
    · linarith [sign.mpr negative]
    · rw [opposite, zero, neg_zero]
    · have negative : e.value < 0 := by
        rw [opposite]
        exact neg_neg_of_pos positive
      exact absurd (sign.mp negative) positive.not_gt

/-- Fifteen digits are spelled by the number to which they are rounded. -/
theorem isSpelled_of_few (few : d.coeff.natAbs < 10 ^ 15) (low : -306 ≤ d.magnitude)
    (high : d.magnitude ≤ 308) : d.IsSpelled := by
  by_cases zero : d.coeff = 0
  · exact isSpelled_zero zero
  have finite : ¬Binary64.overflow ≤ |d.value| := by
    have place : (10 : Rat) ^ d.magnitude ≤ 10 ^ (308 : Int) :=
      zpow_le_zpow_right₀ (by norm_num) high
    exact ((d.abs_value_lt.trans_le place).trans Binary64.largest_place_lt_overflow).not_ge
  cases found : Binary64.nearest? (d.coeff < 0) d with
  | none => exact absurd ((Binary64.nearest?_eq_none _ d).mp found) finite
  | some x =>
    have normal := Binary64.leastNormal_le zero low found
    have nonzero := Binary64.mantissa_ne_zero normal
    have size : |(⟨d.coeff.natAbs, d.scale⟩ : Decimal).value| = |d.value| := by
      rw [abs_value, abs_value, Int.natAbs_natCast]
    have reads := (Binary64.nearest?_congr (d.coeff < 0) size).trans found
    have negative := Binary64.negative_of_nearest? found
    rw [← negative] at reads
    obtain ⟨-, sign, -⟩ := Json.Number.spelled_rounds nonzero
    refine ⟨x, value_eq_of_abs ?_ ?_⟩
    · rw [Json.Number.abs_value_spelled nonzero, Binary64.shortest_of_few few normal reads, size]
    · rw [negative] at sign
      exact decide_eq_decide.mp sign

theorem sent_cases (d : Decimal) : (∃ e, d.sent = .number e) ∨ d.sent = .text d.toText := by
  unfold sent
  cases Json.Number.ofDecimal? d with
  | none => exact .inr rfl
  | some n => exact .inl ⟨_, rfl⟩

theorem compare_sent_iff (d : Decimal) :
    (Value.number d).compare d.sent = some .eq ↔ d.IsWord ∨ d.IsSpelled := by
  rw [← sent_same_iff]
  rcases d.sent_cases with ⟨e, came⟩ | came
  · have number : (∃ f, Value.number e = .number f ∧ f.value = d.value) ↔ e.value = d.value := by
      simp
    have order : (Value.number d).compare (.number e) = some .eq ↔ d.value = e.value := by
      simp [Value.compare, compare_eq]
    rw [came, number, order, eq_comm]
  · rw [came]
    simp [Value.compare]

theorem compare_sent_none_iff (d : Decimal) :
    (Value.number d).compare d.sent = none ↔ Binary64.overflow ≤ |d.value| := by
  rw [← sent_text_iff]
  rcases d.sent_cases with ⟨e, came⟩ | came
  · rw [came]
    simp [Value.compare]
  · rw [came]
    simp [Value.compare]

end Decimal

/-- What is written for a number and read back compares as the number does if it compares equal to
it. -/
theorem Value.compare_congr_number {d e : Decimal}
    (same : (Value.number d).compare (.number e) = some .eq) (w : Value) :
    (Value.number e).compare w = (Value.number d).compare w := by
  have size : d.value = e.value := by simpa [compare, Decimal.compare_eq] using same
  exact (compare_number_congr size w).symm

/-- A number that is written as JSON is read back as an equal one, which compares with all values as
it does, if and only if its text is an integer of 64 bits or a binary64 number is spelled with its
value. All numbers of up to fifteen digits that are not too large or small are among these. Past the
range of binary64 a text comes back, and else a number that is not equal. -/
theorem number_wire_exact (d : Decimal) :
    ∃ v, Value.ofJson (Value.number d).toJson = .ok v ∧
      ((Value.number d).compare v = some .eq ↔ d.IsWord ∨ d.IsSpelled) ∧
      ((Value.number d).compare v = some .eq →
        ∀ w, v.compare w = (Value.number d).compare w ∧ w.compare v = w.compare (.number d)) ∧
      (d.coeff.natAbs < 10 ^ 15 ∧ -306 ≤ d.magnitude ∧ d.magnitude ≤ 308 →
        (Value.number d).compare v = some .eq) ∧
      ((Value.number d).compare v = none ↔ Binary64.overflow ≤ |d.value|) := by
  refine ⟨d.sent, d.ofJson_toJson, d.compare_sent_iff, fun same w => ?_, fun few => ?_,
    d.compare_sent_none_iff⟩
  · rcases d.sent_cases with ⟨e, came⟩ | came
    · rw [came] at same ⊢
      have alike := Value.compare_congr_number same w
      exact ⟨alike, by rw [Value.compare_swap, alike, ← Value.compare_swap]⟩
    · rw [came] at same
      cases same
  · exact d.compare_sent_iff.mpr (.inr (Decimal.isSpelled_of_few few.1 few.2.1 few.2.2))

theorem number_wire_exact_price :
    ∃ v, Value.ofJson (Value.number ⟨1999, 2⟩).toJson = .ok v ∧
      (Value.number ⟨1999, 2⟩).compare v = some .eq := by
  obtain ⟨v, read, -, -, few, -⟩ := number_wire_exact ⟨1999, 2⟩
  exact ⟨v, read, few (by decide)⟩

/-- An integer just past 64 bits comes back as a larger number. -/
theorem wide_number_rounded :
    Value.ofJson (Value.number ⟨18446744073709551617, 0⟩).toJson =
        .ok (.number ⟨18446744073709552, -3⟩) ∧
      (Value.number ⟨18446744073709551617, 0⟩).compare (.number ⟨18446744073709552, -3⟩) =
        some .lt :=
  ⟨rfl, rfl⟩

end RecordQuery
