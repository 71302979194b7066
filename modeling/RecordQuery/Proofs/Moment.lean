import RecordQuery.Proofs.Calendar
import RecordQuery.Proofs.ValueOrder

/-! Instants as moments: the seconds that a clock has counted, 60 in every minute, and a fraction.
The seconds of a leap second are those of the second before it, and its fraction goes on where that
one ends. Instants are in the order of their moments. -/
namespace RecordQuery.Instant

/-- A day of the calendar and a time on it. -/
structure Valid (t : Instant) : Prop where
  date : t.date.isValid = true
  minute : t.minute < minutesPerDay
  second : t.second ≤ 60
  nano : t.nano < 1000000000

/-- Seconds from the beginning of the calendar. -/
def clock (t : Instant) : Int :=
  (t.date.dayNumber * minutesPerDay + t.minute) * 60 + min t.second 59

/-- Nanoseconds after the last second that the clock has counted. -/
def fraction (t : Instant) : Nat := if t.second = 60 then 1000000000 + t.nano else t.nano

variable {t u : Instant}

theorem compare_lt_iff : t.compare u = .lt ↔ t.date.year < u.date.year ∨
    t.date.year = u.date.year ∧ (t.date.month < u.date.month ∨
    t.date.month = u.date.month ∧ (t.date.day < u.date.day ∨
    t.date.day = u.date.day ∧ (t.minute < u.minute ∨
    t.minute = u.minute ∧ (t.second < u.second ∨
    t.second = u.second ∧ t.nano < u.nano)))) := by
  simp only [compare, List.compare_cons_cons, Ordering.then_eq_lt, compare_lt_iff_lt,
    compare_eq_iff_eq, Int.ofNat_lt, Int.ofNat_inj, List.compare_nil_nil]
  simp

theorem compare_eq_iff : t.compare u = .eq ↔ t = u := by
  obtain ⟨⟨y, m, d⟩, minute, second, nano⟩ := t
  obtain ⟨⟨y', m', d'⟩, minute', second', nano'⟩ := u
  simp [compare, and_assoc]

/-- Another reading of the clock, less than a day away, is again one of the calendar. -/
theorem Valid.earlier (valid : t.Valid) {minutes : Int} (low : -minutesPerDay < minutes)
    (high : minutes < minutesPerDay) : (t.earlier minutes).Valid := by
  have within := valid.minute
  unfold Instant.earlier
  dsimp only
  split
  · refine ⟨Date.previous_isValid valid.date, ?_, valid.second, valid.nano⟩
    dsimp only
    omega
  split
  · refine ⟨Date.next_isValid valid.date, ?_, valid.second, valid.nano⟩
    dsimp only
    omega
  · refine ⟨valid.date, ?_, valid.second, valid.nano⟩
    dsimp only
    omega

theorem clock_earlier (valid : t.Valid) {minutes : Int} (low : -minutesPerDay < minutes)
    (high : minutes < minutesPerDay) : (t.earlier minutes).clock = t.clock - 60 * minutes := by
  have within := valid.minute
  have before := Date.dayNumber_previous valid.date
  have after := Date.dayNumber_next valid.date
  unfold earlier clock
  unfold minutesPerDay at *
  dsimp only
  split
  · dsimp only
    omega
  split
  · dsimp only
    omega
  · dsimp only
    omega

/-- The beginning of the minute after. -/
def nextMinute (t : Instant) : Instant := { t.earlier (-1) with second := 0, nano := 0 }

theorem Valid.nextMinute (valid : t.Valid) : t.nextMinute.Valid := by
  have later : (t.earlier (-1)).Valid := valid.earlier (by decide) (by decide)
  exact ⟨later.date, later.minute, Nat.zero_le 60, Nat.zero_lt_succ _⟩

theorem clock_nextMinute (valid : t.Valid) (leap : t.second = 60) :
    t.nextMinute.clock = t.clock + 1 := by
  have later : (t.earlier (-1)).clock = t.clock - 60 * -1 :=
    clock_earlier valid (by decide) (by decide)
  have second : (t.earlier (-1)).second = t.second := by
    unfold earlier
    dsimp only
    split
    · rfl
    · split <;> rfl
  unfold clock at later ⊢
  rw [second, leap] at later
  unfold nextMinute
  dsimp only
  omega

theorem clock_lt_of_date (left : t.Valid) (right : u.Valid)
    (earlier : t.date.dayNumber < u.date.dayNumber) : t.clock < u.clock := by
  have minutes := left.minute
  have minutes' := right.minute
  unfold clock minutesPerDay at *
  omega

theorem moment_lt (left : t.Valid) (right : u.Valid) (before : t.compare u = .lt) :
    t.clock < u.clock ∨ t.clock = u.clock ∧ t.fraction < u.fraction := by
  rcases compare_lt_iff.mp before with year | ⟨year, month | ⟨month, day | ⟨day, time⟩⟩⟩
  · exact .inl (clock_lt_of_date left right (Date.dayNumber_lt_of_year left.date right.date year))
  · exact .inl (clock_lt_of_date left right
      (Date.dayNumber_lt_of_month left.date right.date year month))
  · exact .inl (clock_lt_of_date left right (Date.dayNumber_lt_of_day year month day))
  · have date : t.date.dayNumber = u.date.dayNumber := by
      rw [Date.dayNumber, Date.dayNumber, year, month, day]
    have within := left.nano
    have last := right.second
    -- on one day the minute decides, then the second; only 59 and 60 are one second of the clock
    unfold clock fraction
    rw [date]
    rcases time with minute | ⟨minute, second | ⟨second, nano⟩⟩
    · omega
    · split <;> split <;> omega
    · split <;> split <;> omega

/-- Instants are in the order of time, and a leap second is the second half of the second before. -/
theorem compare_moments (left : t.Valid) (right : u.Valid) :
    t.compare u =
      (Ord.compare t.clock u.clock).then (Ord.compare t.fraction u.fraction) := by
  cases order : t.compare u with
  | lt =>
    rcases moment_lt left right order with clock | ⟨clock, fraction⟩
    · rw [compare_lt_iff_lt.mpr clock]
      rfl
    · rw [compare_eq_iff_eq.mpr clock, compare_lt_iff_lt.mpr fraction]
      rfl
  | eq =>
    obtain rfl := compare_eq_iff.mp order
    rw [compare_eq_iff_eq.mpr rfl, compare_eq_iff_eq.mpr rfl]
    rfl
  | gt =>
    rcases moment_lt right left (Std.OrientedCmp.lt_of_gt order) with clock | ⟨clock, fraction⟩
    · rw [compare_gt_iff_gt.mpr clock]
      rfl
    · rw [compare_eq_iff_eq.mpr clock.symm, compare_gt_iff_gt.mpr fraction]
      rfl

end RecordQuery.Instant
