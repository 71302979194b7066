import RecordQuery.Instant

/-! The calendar as a count of days. Days that follow one another in the calendar have numbers that
follow one another, so dates come in the order of their numbers. -/
namespace RecordQuery

theorem daysIn_pos (year : Int) (month : Nat) : 1 ≤ daysIn year month := by
  unfold daysIn
  split
  · split <;> omega
  · split <;> omega

theorem daysIn_le (year : Int) (month : Nat) : daysIn year month ≤ 31 := by
  unfold daysIn
  split
  · split <;> omega
  · split <;> omega

namespace Date

theorem isValid_iff {d : Date} : d.isValid = true ↔
    1 ≤ d.month ∧ d.month ≤ 12 ∧ 1 ≤ d.day ∧ d.day ≤ daysIn d.year d.month := by
  simp [isValid, and_assoc]

theorem next_isValid {d : Date} (valid : d.isValid = true) : d.next.isValid = true := by
  rw [isValid_iff] at valid ⊢
  unfold next
  split
  · dsimp only
    omega
  split
  · have days := daysIn_pos d.year (d.month + 1)
    dsimp only
    omega
  · have days := daysIn_pos (d.year + 1) 1
    dsimp only
    omega

theorem previous_isValid {d : Date} (valid : d.isValid = true) : d.previous.isValid = true := by
  rw [isValid_iff] at valid ⊢
  unfold previous
  split
  · dsimp only
    omega
  split
  · have days := daysIn_pos d.year (d.month - 1)
    dsimp only
    omega
  · have days : daysIn (d.year - 1) 12 = 31 := rfl
    dsimp only
    omega

/-- Days from the first one of the year 0 to the first one of the year. -/
def daysBeforeYear (year : Int) : Int :=
  365 * year + (year + 3) / 4 - (year + 99) / 100 + (year + 399) / 400

/-- Days of the first months of the year. -/
def daysOfMonths (year : Int) : Nat → Nat
  | 0 => 0
  | months + 1 => daysOfMonths year months + daysIn year (months + 1)

def dayNumber (d : Date) : Int :=
  daysBeforeYear d.year + daysOfMonths d.year (d.month - 1) + d.day

theorem daysOfMonths_year (year : Int) :
    daysOfMonths year 12 = if isLeapYear year then 366 else 365 := by
  cases leap : isLeapYear year <;> simp [daysOfMonths, daysIn, leap]

theorem isLeapYear_iff (year : Int) :
    isLeapYear year = true ↔ year % 4 = 0 ∧ (year % 100 ≠ 0 ∨ year % 400 = 0) := by
  simp [isLeapYear]

theorem daysBeforeYear_succ (year : Int) :
    daysBeforeYear (year + 1) = daysBeforeYear year + daysOfMonths year 12 := by
  have fourth : (year + 1 + 3) / 4 = (year + 3) / 4 + if year % 4 = 0 then 1 else 0 := by
    split <;> omega
  have century : (year + 1 + 99) / 100 = (year + 99) / 100 + if year % 100 = 0 then 1 else 0 := by
    split <;> omega
  have cycle : (year + 1 + 399) / 400 = (year + 399) / 400 + if year % 400 = 0 then 1 else 0 := by
    split <;> omega
  rw [daysOfMonths_year, daysBeforeYear, daysBeforeYear, fourth, century, cycle]
  by_cases leap : isLeapYear year = true
  · have rule := (isLeapYear_iff year).mp leap
    rw [if_pos leap]
    split <;> split <;> split <;> omega
  · have rule := mt (isLeapYear_iff year).mpr leap
    rw [if_neg leap]
    split <;> split <;> split <;> omega

theorem daysBeforeYear_mono {year later : Int} (ordered : year ≤ later) :
    daysBeforeYear year ≤ daysBeforeYear later := by
  unfold daysBeforeYear
  omega

theorem daysOfMonths_mono (year : Int) {months more : Nat} (fewer : months ≤ more) :
    daysOfMonths year months ≤ daysOfMonths year more := by
  induction fewer with
  | refl => exact Nat.le_refl _
  | step _ ih => exact Nat.le_trans ih (Nat.le_add_right _ _)

theorem daysOfMonths_pred (year : Int) {month : Nat} (positive : 1 ≤ month) :
    daysOfMonths year month = daysOfMonths year (month - 1) + daysIn year month := by
  obtain ⟨months, rfl⟩ := Nat.exists_eq_add_of_le' positive
  rfl

theorem dayNumber_next {d : Date} (valid : d.isValid = true) :
    d.next.dayNumber = d.dayNumber + 1 := by
  obtain ⟨firstMonth, lastMonth, -, lastDay⟩ := isValid_iff.mp valid
  have month := daysOfMonths_pred d.year firstMonth
  unfold next
  split
  · simp only [dayNumber]
    omega
  split
  · simp only [dayNumber, Nat.add_sub_cancel]
    omega
  next ended _ =>
    have december : d.month = 12 := by omega
    have year := daysBeforeYear_succ d.year
    have none : daysOfMonths (d.year + 1) 0 = 0 := rfl
    simp only [dayNumber, december, Nat.sub_self, none] at month lastDay ended ⊢
    omega

theorem dayNumber_previous {d : Date} (valid : d.isValid = true) :
    d.previous.dayNumber = d.dayNumber - 1 := by
  obtain ⟨firstMonth, -, firstDay, -⟩ := isValid_iff.mp valid
  unfold previous
  split
  · simp only [dayNumber]
    omega
  split
  next later =>
    have month := daysOfMonths_pred d.year (show 1 ≤ d.month - 1 by omega)
    simp only [dayNumber]
    omega
  next =>
    have january : d.month = 1 := by omega
    have december := daysOfMonths_pred (d.year - 1) (show 1 ≤ 12 by decide)
    have days : daysIn (d.year - 1) 12 = 31 := rfl
    have none : daysOfMonths d.year 0 = 0 := rfl
    have year := daysBeforeYear_succ (d.year - 1)
    rw [Int.sub_add_cancel] at year
    simp only [dayNumber, january, Nat.sub_self, none] at december year ⊢
    omega

/-- A date of the calendar is among the days of its month, and its month among those of its year. -/
theorem dayNumber_bounds {d : Date} (valid : d.isValid = true) :
    daysBeforeYear d.year + daysOfMonths d.year (d.month - 1) < d.dayNumber ∧
      d.dayNumber ≤ daysBeforeYear d.year + daysOfMonths d.year d.month ∧
      d.dayNumber ≤ daysBeforeYear (d.year + 1) := by
  obtain ⟨firstMonth, lastMonth, firstDay, lastDay⟩ := isValid_iff.mp valid
  have month := daysOfMonths_pred d.year firstMonth
  have year := daysOfMonths_mono d.year lastMonth
  have following := daysBeforeYear_succ d.year
  unfold dayNumber
  omega

theorem dayNumber_lt_of_year {a b : Date} (left : a.isValid = true) (right : b.isValid = true)
    (earlier : a.year < b.year) : a.dayNumber < b.dayNumber := by
  have upper := (dayNumber_bounds left).2.2
  have lower := (dayNumber_bounds right).1
  have years : daysBeforeYear (a.year + 1) ≤ daysBeforeYear b.year := daysBeforeYear_mono earlier
  omega

theorem dayNumber_lt_of_month {a b : Date} (left : a.isValid = true) (right : b.isValid = true)
    (year : a.year = b.year) (earlier : a.month < b.month) : a.dayNumber < b.dayNumber := by
  have upper := (dayNumber_bounds left).2.1
  have lower := (dayNumber_bounds right).1
  have months : daysOfMonths a.year a.month ≤ daysOfMonths a.year (b.month - 1) :=
    daysOfMonths_mono a.year (by omega)
  rw [← year] at lower
  omega

theorem dayNumber_lt_of_day {a b : Date} (year : a.year = b.year) (month : a.month = b.month)
    (earlier : a.day < b.day) : a.dayNumber < b.dayNumber := by
  rw [dayNumber, dayNumber, year, month]
  omega

end Date
end RecordQuery
