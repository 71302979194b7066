import RecordQuery.Proofs.Digits
import RecordQuery.Proofs.Moment

/-! The text of an instant and its reading. What is read is an instant of the calendar, in UTC, and
its own text is read as the same instant if its year has four digits. An offset can lead into the
year before 0 or the one after 9999; the text then begins with a sign and is not read at all. -/
namespace RecordQuery.Instant

variable {t : Instant} {width n : Nat} {cs rest : List Char}

/-! Numerals of a fixed width. -/

theorem padded_digits (width n : Nat) : ∀ c ∈ padded width n, isDecimalDigit c = true :=
  List.forall_mem_append.mpr ⟨zeros_digits _, numeral_digits n⟩

theorem padded_length (positive : 0 < width) (small : n < 10 ^ width) :
    (padded width n).length = width := by
  have digits : digitCount n ≤ width := (Nat.length_toDigits_le_iff (by decide) positive).mpr small
  have numeral : (numeral n).length = digitCount n := rfl
  rw [padded, List.length_append, zeros, List.length_replicate, numeral]
  omega

theorem padded_value (width n : Nat) : Nat.ofDigitChars 10 (padded width n) 0 = n := by
  rw [padded, Nat.ofDigitChars_append, zeros, Nat.ofDigitChars_replicate_zero, Nat.mul_zero,
    numeral_value]

theorem readNat?_padded (positive : 0 < width) (small : n < 10 ^ width) :
    readNat? (padded width n) = some n := by
  have nonempty : padded width n ≠ [] := by
    intro empty
    have length := padded_length positive small
    rw [empty, List.length_nil] at length
    omega
  rw [readNat?_digits nonempty (padded_digits width n), padded_value]

theorem takeNat?_padded (positive : 0 < width) (small : n < 10 ^ width) (rest : List Char) :
    takeNat? width (padded width n ++ rest) = some (n, rest) := by
  have length := padded_length positive small
  have enough : ¬(padded width n ++ rest).length < width := by
    rw [List.length_append]
    omega
  rw [takeNat?, if_neg enough, List.take_left' length, List.drop_left' length,
    readNat?_padded positive small]
  rfl

/-- A numeral of a fixed width is less than the power of ten. -/
theorem takeNat?_lt (read : takeNat? width cs = some (n, rest)) : n < 10 ^ width := by
  unfold takeNat? at read
  split at read
  · cases read
  obtain ⟨m, found, taken⟩ := Option.map_eq_some_iff.mp read
  obtain ⟨rfl, -⟩ := Prod.mk.inj taken
  unfold readNat? at found
  split at found
  next digits =>
    obtain rfl := Option.some.inj found
    have length : (cs.take width).length = width := by
      rw [List.length_take]
      omega
    calc Nat.ofDigitChars 10 (cs.take width) 0
      _ < 10 ^ (cs.take width).length := ofDigitChars_lt (List.all_eq_true.mp digits.2)
      _ = 10 ^ width := by rw [length]
  next => cases found

theorem takeNat?_none {c : Char} (other : isDecimalDigit c = false) :
    takeNat? (width + 1) (c :: cs) = none := by
  simp [takeNat?, readNat?, other]

/-! The parts of a text. -/

theorem takeClock?_padded (within : n < minutesPerDay) (rest : List Char) :
    takeClock? (padded 2 (n / 60) ++ ':' :: (padded 2 (n % 60) ++ rest)) = some (n, rest) := by
  have hour : n / 60 < 24 := by
    unfold minutesPerDay at within
    omega
  have minute : n % 60 < 60 := Nat.mod_lt n (by decide)
  have whole : 60 * (n / 60) + n % 60 = n := Nat.div_add_mod n 60
  simp [takeClock?, takeNat?_padded, takeChar?, hour, minute, whole, Nat.lt_trans hour,
    Nat.lt_trans minute]

theorem takeClock?_lt (read : takeClock? cs = some (n, rest)) : n < minutesPerDay := by
  simp only [takeClock?, Option.bind_eq_bind, Option.bind_eq_some_iff, Prod.exists] at read
  obtain ⟨hour, _, -, _, -, minute, _, -, read⟩ := read
  split at read
  next within =>
    obtain ⟨rfl, -⟩ := Prod.mk.inj (Option.some.inj read)
    unfold minutesPerDay
    omega
  next => cases read

/-- Fewer than ten digits after the point count as if zeros stood behind them. -/
theorem takeFraction?_padded {nano : Nat} (positive : 0 < width) (few : width ≤ 9)
    (small : n < 10 ^ width) (whole : n * 10 ^ (9 - width) = nano)
    (stop : ∀ c ∈ rest.head?, isDecimalDigit c = false) :
    takeFraction? ('.' :: padded width n ++ rest) = some (nano, rest) := by
  have length := padded_length positive small
  have taken := takeWhile_digits (padded_digits width n) stop
  have dropped := dropWhile_digits (padded_digits width n) stop
  have nonempty : (padded width n).isEmpty = false := by
    rw [← Bool.not_eq_true, List.isEmpty_iff_length_eq_zero, length]
    exact Nat.ne_of_gt positive
  have nine : (padded width n).take 9 = padded width n := List.take_of_length_le (by omega)
  simp only [List.cons_append, takeFraction?, taken, dropped, nonempty, nine, length]
  rw [Nat.ofDigitChars_append, padded_value, zeros, Nat.ofDigitChars_replicate_zero, Nat.mul_comm,
    whole]
  rfl

theorem takeFraction?_fractionChars {nano : Nat} (small : nano < 10 ^ 9)
    (stop : ∀ c ∈ rest.head?, isDecimalDigit c = false) (point : rest.head? ≠ some '.') :
    takeFraction? (fractionChars nano ++ rest) = some (nano, rest) := by
  unfold fractionChars
  split
  next zero =>
    rw [zero, List.nil_append]
    unfold takeFraction?
    split
    · exact absurd rfl point
    · rfl
  split
  next thousandths =>
    exact takeFraction?_padded (by decide) (by decide) (by omega)
      (Nat.div_mul_cancel (Nat.dvd_of_mod_eq_zero thousandths)) stop
  split
  next millionths =>
    exact takeFraction?_padded (by decide) (by decide) (by omega)
      (Nat.div_mul_cancel (Nat.dvd_of_mod_eq_zero millionths)) stop
  next => exact takeFraction?_padded (by decide) (by decide) small (Nat.mul_one nano) stop

theorem takeFraction?_lt (read : takeFraction? cs = some (n, rest)) : n < 10 ^ 9 := by
  unfold takeFraction? at read
  split at read
  next cs =>
    dsimp only at read
    split at read
    · cases read
    obtain ⟨rfl, -⟩ := Prod.mk.inj (Option.some.inj read)
    have few : ((cs.takeWhile isDecimalDigit).take 9).length ≤ 9 := List.length_take_le _ _
    generalize taken : (cs.takeWhile isDecimalDigit).take 9 = nine at few
    have digits : ∀ c ∈ nine ++ zeros (9 - nine.length), isDecimalDigit c = true := by
      refine List.forall_mem_append.mpr ⟨fun c member => ?_, zeros_digits _⟩
      rw [← taken] at member
      exact List.all_eq_true.mp List.all_takeWhile c (List.mem_of_mem_take member)
    have bound := ofDigitChars_lt digits
    have length : nine.length + (9 - nine.length) = 9 := by omega
    rwa [List.length_append, zeros, List.length_replicate, length] at bound
  next =>
    obtain ⟨rfl, -⟩ := Prod.mk.inj (Option.some.inj read)
    decide

theorem offset?_bounds {offset : Int} (read : offset? cs = some offset) :
    -minutesPerDay < offset ∧ offset < minutesPerDay := by
  unfold offset? at read
  split at read
  · cases read
    decide
  · cases read
    decide
  · simp only [Option.bind_eq_bind, Option.bind_eq_some_iff, Prod.exists] at read
    obtain ⟨minutes, rest, clock, read⟩ := read
    have within := takeClock?_lt clock
    split at read
    · cases read
    split at read
    · cases read
      omega
    split at read
    · cases read
      omega
    · cases read
  · cases read

theorem earlier_zero (within : t.minute < minutesPerDay) : t.earlier 0 = t := by
  unfold earlier
  dsimp only
  rw [if_neg (by omega), if_neg (by omega), Int.sub_zero, Int.toNat_natCast]

/-- Another reading of the clock is in the same year or on the day that is next to it. -/
theorem earlier_year (t : Instant) (minutes : Int) :
    (t.earlier minutes).date.year = t.date.year ∨
      (t.earlier minutes).date = ⟨t.date.year - 1, 12, 31⟩ ∨
      (t.earlier minutes).date = ⟨t.date.year + 1, 1, 1⟩ := by
  unfold earlier
  dsimp only
  split
  · unfold Date.previous
    grind
  split
  · unfold Date.next
    grind
  · exact .inl rfl

/-! The two directions. -/

/-- The own text of an instant whose year has four digits is read as the instant. -/
theorem ofText?_toText (valid : t.Valid) (low : 0 ≤ t.date.year) (high : t.date.year ≤ 9999) :
    ofText? t.toText = some t := by
  obtain ⟨firstMonth, lastMonth, firstDay, lastDay⟩ := Date.isValid_iff.mp valid.date
  have days := daysIn_le t.date.year t.date.month
  have positive : (t.date.year.toNat : Int) = t.date.year := Int.toNat_of_nonneg low
  have year : t.date.year.toNat < 10 ^ 4 := by omega
  have month : t.date.month < 10 ^ 2 := by omega
  have day : t.date.day < 10 ^ 2 := by omega
  have second : t.second < 10 ^ 2 := Nat.lt_of_le_of_lt valid.second (by decide)
  have fraction : takeFraction? (fractionChars t.nano ++ ['+', '0', '0', ':', '0', '0']) =
      some (t.nano, ['+', '0', '0', ':', '0', '0']) :=
    takeFraction?_fractionChars valid.nano (by rintro _ ⟨⟩; rfl) (by decide)
  have offset : offset? ['+', '0', '0', ':', '0', '0'] = some 0 := by decide
  simp [ofText?, toText, toChars, yearChars, ofChars?, takeChar?, low, high, positive, offset,
    takeNat?_padded (by decide) year, takeNat?_padded (by decide) month,
    takeNat?_padded (by decide) day, takeClock?_padded valid.minute,
    takeNat?_padded (by decide) second, fraction, valid.date, valid.second,
    earlier_zero valid.minute]

/-- Any other year has a sign, and its text is none of an instant. -/
theorem ofText?_toText_none (outside : ¬(0 ≤ t.date.year ∧ t.date.year ≤ 9999)) :
    ofText? t.toText = none := by
  have signed : isDecimalDigit (if t.date.year < 0 then '-' else '+') = false := by
    split <;> rfl
  simp [ofText?, toText, toChars, yearChars, outside, ofChars?, takeNat?_none signed]

/-- What is read is an instant of the calendar, in a year of four digits or on the day that comes
before or after them all. -/
theorem ofText?_valid {s : String} (read : ofText? s = some t) :
    t.Valid ∧ (0 ≤ t.date.year ∧ t.date.year ≤ 9999 ∨
      t.date = ⟨-1, 12, 31⟩ ∨ t.date = ⟨10000, 1, 1⟩) := by
  simp only [ofText?, ofChars?, Option.bind_eq_bind, Option.bind_eq_some_iff, Prod.exists] at read
  obtain ⟨year, _, four, _, -, month, _, -, _, -, day, _, -, _, -, minute, _, clock, _, -,
    second, _, -, nano, _, fraction, offset, zone, read⟩ := read
  have years := takeNat?_lt four
  obtain ⟨low, high⟩ := offset?_bounds zone
  split at read
  next allowed =>
    obtain rfl := Option.some.inj read
    have valid : Instant.Valid ⟨⟨year, month, day⟩, minute, second, nano⟩ :=
      ⟨allowed.1, takeClock?_lt clock, allowed.2, takeFraction?_lt fraction⟩
    refine ⟨valid.earlier low high, ?_⟩
    rcases earlier_year ⟨⟨year, month, day⟩, minute, second, nano⟩ offset with same | date | date
    · dsimp only at same
      omega
    · rcases Nat.eq_zero_or_pos year with first | later
      · exact .inr (.inl (by rw [date, first]; rfl))
      · rw [date]
        dsimp only
        omega
    · by_cases last : year = 9999
      · exact .inr (.inr (by rw [date, last]; rfl))
      · rw [date]
        dsimp only
        omega
  next => cases read

end RecordQuery.Instant
