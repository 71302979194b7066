import RecordQuery.Json.Number
import RecordQuery.Proofs.Digits
import RecordQuery.Proofs.Rounding

/-! The text of a decimal, read as a number literal: an integer is read where the text has neither
a point nor an exponent, and elsewhere the size of the decimal is rounded. -/
namespace RecordQuery

namespace Json.Number

/-- What may stand behind the digits of a literal, and the exponent that it spells. -/
inductive Ending : List Char → Option Int → Prop where
  | plain : Ending [] none
  | negative (k : Nat) : Ending ('E' :: '-' :: numeral k) (some (-k))
  | positive (k : Nat) : Ending ('e' :: '+' :: numeral k) (some k)

/-- The digits after the point, and the point if there are any. -/
def afterPoint : List Char → List Char
  | [] => []
  | cs => '.' :: cs

variable {whole fraction tail : List Char} {exponent : Option Int}

theorem afterPoint_eq (nonempty : fraction ≠ []) : afterPoint fraction = '.' :: fraction := by
  cases fraction with
  | nil => exact absurd rfl nonempty
  | cons => rfl

theorem Ending.stops (ending : Ending tail exponent) :
    ∀ c ∈ tail.head?, isDecimalDigit c = false := by
  cases ending <;> simp <;> rfl

theorem afterPoint_stops (ending : Ending tail exponent) (fraction : List Char) :
    ∀ c ∈ (afterPoint fraction ++ tail).head?, isDecimalDigit c = false := by
  cases fraction with
  | nil => exact ending.stops
  | cons => simp [afterPoint]; rfl

/-- Parts that a literal is made of. -/
structure Parts (whole fraction tail : List Char) (exponent : Option Int) : Prop where
  nonempty : whole ≠ []
  leading : whole.head? = some '0' → whole.length = 1
  wholeDigits : ∀ c ∈ whole, isDecimalDigit c = true
  fractionDigits : ∀ c ∈ fraction, isDecimalDigit c = true
  ending : Ending tail exponent

theorem Parts.unsigned (parts : Parts whole fraction tail exponent) (rest : List Char) :
    (whole ++ rest).head? ≠ some '-' := by
  intro minus
  rw [List.head?_append_of_ne_nil _ parts.nonempty] at minus
  have digit := parts.wholeDigits '-' (List.mem_of_mem_head? minus)
  cases digit

theorem Parts.ofChars? (parts : Parts whole fraction tail exponent) (negative : Bool) :
    Literal.ofChars? (signed negative (whole ++ (afterPoint fraction ++ tail))) =
      some ⟨negative, Nat.ofDigitChars 10 whole 0, fraction, exponent⟩ := by
  have read : readWhole? whole = some (Nat.ofDigitChars 10 whole 0) := by
    rw [readWhole?, if_neg (fun zero => zero.2 (parts.leading zero.1)),
      readNat?_digits parts.nonempty parts.wholeDigits]
  have taken := takeWhile_digits parts.wholeDigits (afterPoint_stops parts.ending fraction)
  have dropped := dropWhile_digits parts.wholeDigits (afterPoint_stops parts.ending fraction)
  have sign : decide ((signed negative (whole ++ (afterPoint fraction ++ tail))).head? =
      some '-') = negative := by
    cases negative
    · exact decide_eq_false (parts.unsigned _)
    · rfl
  have body : (if (signed negative (whole ++ (afterPoint fraction ++ tail))).head? = some '-' then
      (signed negative (whole ++ (afterPoint fraction ++ tail))).drop 1
      else signed negative (whole ++ (afterPoint fraction ++ tail))) =
        whole ++ (afterPoint fraction ++ tail) := by
    cases negative
    · exact if_neg (parts.unsigned _)
    · rfl
  unfold Literal.ofChars?
  simp only [body, sign, taken, dropped, read]
  cases fraction with
  | nil => cases parts.ending <;> simp [afterPoint, readInt?_minus, readInt?_plus]
  | cons c cs =>
    have more : (c :: (cs ++ tail)).takeWhile isDecimalDigit = c :: cs :=
      takeWhile_digits parts.fractionDigits parts.ending.stops
    have rest : (c :: (cs ++ tail)).dropWhile isDecimalDigit = tail :=
      dropWhile_digits parts.fractionDigits parts.ending.stops
    simp only [afterPoint, List.cons_append, more, rest]
    cases parts.ending <;> simp [readInt?_minus, readInt?_plus]

theorem Parts.integer (parts : Parts whole [] [] none) (negative : Bool) :
    Number.ofChars? (signed negative whole) = ofInt? negative (Nat.ofDigitChars 10 whole 0) := by
  have literal := parts.ofChars? negative
  rw [afterPoint, List.append_nil, List.append_nil] at literal
  rw [Number.ofChars?, literal]
  rfl

theorem Parts.rounded (parts : Parts whole fraction tail exponent)
    (real : fraction ≠ [] ∨ exponent ≠ none) (negative : Bool) :
    Number.ofChars? (signed negative (whole ++ (afterPoint fraction ++ tail))) =
      (Binary64.nearest? negative ⟨(Nat.ofDigitChars 10 (whole ++ fraction) 0 : Nat),
        fraction.length - exponent.getD 0⟩).map .real := by
  have coeff : Nat.ofDigitChars 10 whole 0 * Nat.pow 10 fraction.length +
      Nat.ofDigitChars 10 fraction 0 = Nat.ofDigitChars 10 (whole ++ fraction) 0 := by
    rw [Nat.ofDigitChars_append, Nat.mul_comm]
    exact Nat.ofDigitChars_eq_ofDigitChars_zero.symm
  have other : (fraction.isEmpty && exponent.isNone) = false := by
    rcases real with digits | power
    · simp [digits]
    · cases exponent with
      | none => exact absurd rfl power
      | some => simp
  rw [Number.ofChars?, parts.ofChars? negative, Option.bind_some, Literal.number?, other, ← coeff]
  rfl

end Json.Number

namespace Decimal

open Json.Number

variable {d : Decimal}

theorem numeral_natAbs (nonzero : d.coeff ≠ 0) : (numeral d.coeff.natAbs).head? ≠ some '0' :=
  numeral_head (Int.natAbs_ne_zero.mpr nonzero)

theorem toChars_pointed (nonzero : d.coeff ≠ 0)
    (near : d.scale ≤ (numeral d.coeff.natAbs).length + maxLeadingZeros) (short : -15 ≤ d.scale) :
    d.toChars = signed (d.coeff < 0) (pointed (numeral d.coeff.natAbs) d.scale) := by
  have few : ¬(maxTrailingZeros : Int) < -d.scale := by
    rw [maxTrailingZeros]
    omega
  rw [toChars, if_neg nonzero]
  dsimp only
  rw [if_neg (by omega), if_neg few]

theorem ofDecimal?_integer (nonzero : d.coeff ≠ 0) (whole : d.scale ≤ 0) (short : -15 ≤ d.scale) :
    ofDecimal? d =
      ofInt? (d.coeff < 0) (d.coeff.natAbs * 10 ^ (-d.scale).toNat) := by
  have text : d.toChars =
      signed (d.coeff < 0) (numeral d.coeff.natAbs ++ zeros (-d.scale).toNat) := by
    have point : pointed (numeral d.coeff.natAbs) d.scale =
        numeral d.coeff.natAbs ++ zeros (-d.scale).toNat := if_pos whole
    rw [toChars_pointed nonzero (by omega) short, point]
  have parts : Parts (numeral d.coeff.natAbs ++ zeros (-d.scale).toNat) [] [] none := by
    refine ⟨?_, ?_, ?_, nofun, .plain⟩
    · exact List.append_ne_nil_of_left_ne_nil (numeral_ne_nil _) _
    · intro zero
      rw [List.head?_append_of_ne_nil _ (numeral_ne_nil _)] at zero
      exact absurd zero (numeral_natAbs nonzero)
    · exact List.forall_mem_append.mpr ⟨numeral_digits _, zeros_digits _⟩
  have value : Nat.ofDigitChars 10 (numeral d.coeff.natAbs ++ zeros (-d.scale).toNat) 0 =
      d.coeff.natAbs * 10 ^ (-d.scale).toNat := by
    rw [Nat.ofDigitChars_append, numeral_value, zeros, Nat.ofDigitChars_replicate_zero,
      Nat.mul_comm]
  rw [ofDecimal?, text, parts.integer, value]

theorem rounded_of_parts {whole fraction tail : List Char} {exponent : Option Int}
    (parts : Parts whole fraction tail exponent) (real : fraction ≠ [] ∨ exponent ≠ none)
    (text : d.toChars = signed (d.coeff < 0) (whole ++ (afterPoint fraction ++ tail)))
    (value : Nat.ofDigitChars 10 (whole ++ fraction) 0 = d.coeff.natAbs)
    (scale : fraction.length - exponent.getD 0 = d.scale) :
    ofDecimal? d = (Binary64.nearest? (d.coeff < 0) d).map .real := by
  have size : |(⟨d.coeff.natAbs, d.scale⟩ : Decimal).value| = |d.value| := by
    rw [abs_value, abs_value, Int.natAbs_natCast]
  rw [ofDecimal?, text, parts.rounded real, value, scale, Binary64.nearest?_congr _ size]

theorem ofDecimal?_small (nonzero : d.coeff ≠ 0)
    (small : (numeral d.coeff.natAbs).length + maxLeadingZeros < d.scale) :
    ofDecimal? d = (Binary64.nearest? (d.coeff < 0) d).map .real := by
  have value := numeral_value d.coeff.natAbs
  have digits := numeral_digits d.coeff.natAbs
  have text : d.toChars = signed (d.coeff < 0) (leadPointed (numeral d.coeff.natAbs) ++
      'E' :: '-' :: numeral (d.scale - (numeral d.coeff.natAbs).length + 1).toNat) := by
    rw [toChars, if_neg nonzero]
    dsimp only
    rw [if_pos small]
  cases split : numeral d.coeff.natAbs with
  | nil => exact absurd split (numeral_ne_nil _)
  | cons first rest =>
    rw [split] at value digits text small
    rw [List.length_cons] at small
    obtain ⟨one, others⟩ := List.forall_mem_cons.mp digits
    have lead : leadPointed (first :: rest) = first :: afterPoint rest := by cases rest <;> rfl
    rw [lead] at text
    refine rounded_of_parts ⟨List.cons_ne_nil first [], fun _ => rfl, ?_, others, .negative _⟩
      (.inr nofun) text value ?_
    · exact List.forall_mem_singleton.mpr one
    · rw [Option.getD_some, List.length_cons]
      push_cast at small ⊢
      omega

theorem ofDecimal?_large (nonzero : d.coeff ≠ 0) (large : d.scale < -15) :
    ofDecimal? d = (Binary64.nearest? (d.coeff < 0) d).map .real := by
  have text : d.toChars = signed (d.coeff < 0) (numeral d.coeff.natAbs ++
      'e' :: '+' :: numeral (-d.scale).toNat) := by
    have many : (maxTrailingZeros : Int) < -d.scale := by
      rw [maxTrailingZeros]
      omega
    rw [toChars, if_neg nonzero]
    dsimp only
    rw [if_neg (by omega), if_pos many]
  have parts : Parts (numeral d.coeff.natAbs) [] ('e' :: '+' :: numeral (-d.scale).toNat)
      (some ((-d.scale).toNat : Int)) :=
    ⟨numeral_ne_nil _, fun zero => absurd zero (numeral_natAbs nonzero), numeral_digits _, nofun,
      .positive _⟩
  refine rounded_of_parts parts (.inr nofun) text ?_ ?_
  · rw [List.append_nil, numeral_value]
  · rw [Option.getD_some, List.length_nil]
    omega

/-- The point stands between two digits. -/
theorem ofDecimal?_inside (nonzero : d.coeff ≠ 0) (positive : 0 < d.scale)
    (inside : d.scale < (numeral d.coeff.natAbs).length) :
    ofDecimal? d = (Binary64.nearest? (d.coeff < 0) d).map .real := by
  have digits := numeral_digits d.coeff.natAbs
  let places := d.scale.toNat
  let whole := (numeral d.coeff.natAbs).take ((numeral d.coeff.natAbs).length - places)
  let fraction := (numeral d.coeff.natAbs).drop ((numeral d.coeff.natAbs).length - places)
  have joined : whole ++ fraction = numeral d.coeff.natAbs := List.take_append_drop _ _
  have wholeLength : 0 < whole.length := by
    rw [List.length_take]
    omega
  have fractionLength : fraction.length = places := by
    rw [List.length_drop]
    omega
  have front : whole ≠ [] := List.ne_nil_of_length_pos wholeLength
  have behind : fraction ≠ [] := List.ne_nil_of_length_pos (by omega)
  have text : d.toChars = signed (d.coeff < 0) (whole ++ (afterPoint fraction ++ [])) := by
    have within : d.scale.toNat < (numeral d.coeff.natAbs).length := by omega
    rw [toChars_pointed nonzero (by omega) (by omega), afterPoint_eq behind, List.append_nil]
    simp only [pointed, if_neg (not_le.mpr positive), if_pos within]
    rfl
  have parts : Parts whole fraction [] none := by
    refine ⟨front, fun zero => ?_, ?_, ?_, .plain⟩
    · rw [← List.head?_append_of_ne_nil _ front, joined] at zero
      exact absurd zero (numeral_natAbs nonzero)
    · exact fun c member => digits c (List.mem_of_mem_take member)
    · exact fun c member => digits c (List.mem_of_mem_drop member)
  refine rounded_of_parts parts (.inl behind) text ?_ ?_
  · rw [joined, numeral_value]
  · rw [fractionLength, Option.getD_none]
    omega

/-- The point stands in front of all digits. -/
theorem ofDecimal?_front (nonzero : d.coeff ≠ 0)
    (front : (numeral d.coeff.natAbs).length ≤ d.scale)
    (near : d.scale ≤ (numeral d.coeff.natAbs).length + maxLeadingZeros) :
    ofDecimal? d = (Binary64.nearest? (d.coeff < 0) d).map .real := by
  let padding := d.scale.toNat - (numeral d.coeff.natAbs).length
  let fraction := zeros padding ++ numeral d.coeff.natAbs
  have nonempty : 0 < (numeral d.coeff.natAbs).length :=
    List.length_pos_of_ne_nil (numeral_ne_nil _)
  have fractionLength : fraction.length = d.scale.toNat := by
    rw [List.length_append, zeros, List.length_replicate]
    omega
  have behind : fraction ≠ [] := List.append_ne_nil_of_right_ne_nil _ (numeral_ne_nil _)
  have text : d.toChars = signed (d.coeff < 0) (['0'] ++ (afterPoint fraction ++ [])) := by
    have outside : ¬d.scale.toNat < (numeral d.coeff.natAbs).length := by omega
    have fractional : ¬d.scale ≤ 0 := by omega
    rw [toChars_pointed nonzero near (by omega), afterPoint_eq behind, List.append_nil]
    simp only [pointed, if_neg fractional, if_neg outside]
    rfl
  have parts : Parts ['0'] fraction [] none := by
    refine ⟨List.cons_ne_nil _ _, fun _ => rfl, ?_, ?_, .plain⟩
    · exact List.forall_mem_singleton.mpr rfl
    · exact List.forall_mem_append.mpr ⟨zeros_digits _, numeral_digits _⟩
  refine rounded_of_parts parts (.inl behind) text ?_ ?_
  · have padded : ['0'] ++ fraction = zeros (padding + 1) ++ numeral d.coeff.natAbs := rfl
    rw [padded, Nat.ofDigitChars_append, zeros, Nat.ofDigitChars_replicate_zero, Nat.mul_zero,
      numeral_value]
  · rw [fractionLength, Option.getD_none]
    omega

/-- A decimal that is not written as an integer is read as the number nearest to it. -/
theorem ofDecimal?_rounded (nonzero : d.coeff ≠ 0) (other : 0 < d.scale ∨ d.scale < -15) :
    ofDecimal? d = (Binary64.nearest? (d.coeff < 0) d).map .real := by
  by_cases small : (numeral d.coeff.natAbs).length + maxLeadingZeros < d.scale
  · exact ofDecimal?_small nonzero small
  rcases other with positive | large
  · by_cases inside : d.scale < (numeral d.coeff.natAbs).length
    · exact ofDecimal?_inside nonzero positive inside
    · exact ofDecimal?_front nonzero (not_lt.mp inside) (not_lt.mp small)
  · exact ofDecimal?_large nonzero large

/-- The integer that is written for a decimal without a point. -/
def integer (d : Decimal) : Int := d.coeff * 10 ^ (-d.scale).toNat

theorem integer_value (whole : d.scale ≤ 0) : (⟨d.integer, 0⟩ : Decimal).value = d.value := by
  have scale : 0 - ((-d.scale).toNat : Int) = d.scale := by omega
  rw [integer, value_shift, scale]

theorem ofInt?_integer (nonzero : d.coeff ≠ 0) (whole : d.scale ≤ 0) :
    ofInt? (d.coeff < 0) (d.coeff.natAbs * 10 ^ (-d.scale).toNat) =
      if fitsWord d.integer then some (.int d.integer)
      else (Binary64.nearest? (d.coeff < 0) d).map .real := by
  have power : (0 : Int) < 10 ^ (-d.scale).toNat := Int.pow_pos (by decide)
  have size : d.coeff.natAbs * 10 ^ (-d.scale).toNat = d.integer.natAbs := by
    rw [integer, Int.natAbs_mul, Int.natAbs_pow]
    rfl
  have sign : d.coeff < 0 ↔ d.integer < 0 :=
    lt_iff_lt_of_le_iff_le (mul_nonneg_iff_of_pos_right power).symm
  have digits : (d.integer.natAbs == 0) = false := by
    rw [beq_eq_false_iff_ne, Int.natAbs_ne_zero]
    exact mul_ne_zero nonzero power.ne'
  have signed : (if decide (d.coeff < 0) = true then -(d.integer.natAbs : Int)
      else d.integer.natAbs) = d.integer := by
    simp only [sign, decide_eq_true_eq]
    split <;> omega
  have rounded : |(⟨d.integer.natAbs, 0⟩ : Decimal).value| = |d.value| := by
    rw [← integer_value whole, abs_value, abs_value, Int.natAbs_natCast]
  simp only [ofInt?]
  rw [size, signed, digits, Bool.and_false, Bool.not_false, Bool.and_true,
    Binary64.nearest?_congr _ rounded]

theorem ofDecimal?_zero (zero : d.coeff = 0) : ofDecimal? d = some (.int 0) := by
  rw [ofDecimal?, toChars, if_pos zero]
  rfl

/-- A decimal comes back from its text as an integer if that is what the text is and the integer
takes 64 bits, else as the binary64 number nearest to it. -/
theorem ofDecimal?_eq (nonzero : d.coeff ≠ 0) :
    ofDecimal? d =
      if d.scale ≤ 0 ∧ -15 ≤ d.scale ∧ fitsWord d.integer then some (.int d.integer)
      else (Binary64.nearest? (d.coeff < 0) d).map .real := by
  by_cases whole : d.scale ≤ 0 ∧ -15 ≤ d.scale
  · rw [ofDecimal?_integer nonzero whole.1 whole.2, ofInt?_integer nonzero whole.1]
    simp only [whole, true_and]
  · have other : 0 < d.scale ∨ d.scale < -15 := by omega
    rw [ofDecimal?_rounded nonzero other, if_neg fun all => whole ⟨all.1, all.2.1⟩]

end Decimal
end RecordQuery
