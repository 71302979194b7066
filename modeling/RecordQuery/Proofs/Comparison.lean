import RecordQuery.Proofs.Moment

/-! The laws of comparing values: the reverse comparison has the reverse outcome, null is compared
with nothing, and the values of any other type are in a total order that agrees with equality.
Numbers are in the order of their sizes and instants in that of time, leap seconds included. -/
namespace RecordQuery

theorem Uuid.compare_eq_iff {a b : Uuid} : a.compare b = .eq ↔ a = b := by
  obtain ⟨digits, _⟩ := a
  obtain ⟨digits', _⟩ := b
  have digitwise : digits.map Fin.val = digits'.map Fin.val ↔ digits = digits' :=
    List.map_inj_right fun _ _ => Fin.ext
  simp [compare, digitwise]

namespace Value

variable {a b c : Value}

theorem compare_of_isNull (null : a.isNull = true ∨ b.isNull = true) : a.compare b = none := by
  cases a <;> cases b <;> simp_all [isNull, compare]

theorem sameType_of_eq (equal : a = b) : SameType a b :=
  (sameType_iff a b).mpr (congrArg typeName equal)

theorem SameType.symm (same : SameType a b) : SameType b a := by
  rw [sameType_iff] at same ⊢
  exact same.symm

theorem SameType.trans (first : SameType a b) (second : SameType b c) : SameType a c := by
  rw [sameType_iff] at first second ⊢
  exact first.trans second

theorem SameType.isNull_eq (same : SameType a b) : a.isNull = b.isNull := by
  cases same <;> rfl

/-- Of the values of one type those compare equal that are equal. -/
theorem compare_eq_iff (same : SameType a b) (real : a.isNull = false) :
    a.compare b = some .eq ↔ (a == b) = true := by
  cases same with
  | null => cases real
  | bool a b => cases a <;> cases b <;> decide
  | number d e => simp [compare, BEq.beq, Value.same, Decimal.sameValue]
  | uuid a b => simp [compare, BEq.beq, Value.same, Uuid.compare_eq_iff]
  | instant t u => simp [compare, BEq.beq, Value.same, Instant.compare_eq_iff]
  | text s s' => simp [compare, BEq.beq, Value.same]

theorem eq_of_not_gt (same : SameType a b) (real : a.isNull = false) (up : a.compare b ≠ some .gt)
    (back : b.compare a ≠ some .gt) : a.compare b = some .eq := by
  obtain ⟨order, found⟩ := compare_of_sameType same real
  rw [compare_swap, found] at back
  rw [found] at up ⊢
  cases order with
  | eq => rfl
  | gt => exact absurd rfl up
  | lt => exact absurd rfl back

theorem compare_trans_exact (ab : SameType a b) (bc : SameType b c) (real : a.isNull = false)
    (first : a.compare b ≠ some .gt) (second : b.compare c ≠ some .gt) :
    a.compare c = some .lt ∨
      a.compare c = some .eq ∧ a.compare b = some .eq ∧ b.compare c = some .eq := by
  have ac := ab.trans bc
  have real' : b.isNull = false := ab.isNull_eq.symm.trans real
  obtain ⟨order, found⟩ := compare_of_sameType ac real
  have below := compare_trans ab bc first second
  rw [found] at below ⊢
  cases order with
  | lt => exact .inl rfl
  | gt => exact absurd rfl below
  | eq =>
    -- from the last value it is back to the first one, and so from each to the one before it
    have round : c.compare a ≠ some .gt := by
      rw [compare_swap, found]
      exact nofun
    have backFirst := compare_trans bc ac.symm second round
    have backSecond := compare_trans ac.symm ab round first
    exact .inr ⟨rfl, eq_of_not_gt ab real first backFirst, eq_of_not_gt bc real' second backSecond⟩

end Value

namespace Instant

variable {t u : Instant}

theorem before_leap (left : t.Valid) (right : u.Valid) (leap : t.second = 60)
    (other : u.second < 60) (clock : u.clock ≤ t.clock) : u.compare t = .lt := by
  have fraction : u.fraction < t.fraction := by
    have within := right.nano
    rw [Instant.fraction, Instant.fraction, if_neg (by omega), if_pos leap]
    omega
  rw [compare_moments right left, compare_lt_iff_lt.mpr fraction]
  rcases lt_or_eq_of_le clock with before | same
  · rw [compare_lt_iff_lt.mpr before]
    rfl
  · rw [compare_eq_iff_eq.mpr same]
    rfl

theorem compare_of_clock (left : t.Valid) (right : u.Valid) (clock : t.clock < u.clock) :
    t.compare u = .lt := by
  rw [compare_moments left right, compare_lt_iff_lt.mpr clock]
  rfl

end Instant

/-- The order of values: reversed when they change places, none where one is null, and within any
other type a total order that agrees with equality, of numbers by size and of instants by time,
where a leap second stands between the second before it and the one after it. -/
theorem comparison_exact :
    (∀ a b : Value, a.compare b = (b.compare a).map Ordering.swap) ∧
    (∀ a b : Value, a.isNull = true ∨ b.isNull = true → a.compare b = none) ∧
    (∀ a b : Value, a.SameType b → a.isNull = false →
      (∃ order, a.compare b = some order) ∧ (a.compare b = some .eq ↔ (a == b) = true)) ∧
    (∀ a b c : Value, a.SameType b → b.SameType c → a.isNull = false →
      a.compare b ≠ some .gt → b.compare c ≠ some .gt →
        a.compare c = some .lt ∨
          a.compare c = some .eq ∧ a.compare b = some .eq ∧ b.compare c = some .eq) ∧
    (∀ d e : Decimal,
      (Value.number d).compare (.number e) = some (Ord.compare d.value e.value)) ∧
    ∀ t u : Instant, t.Valid → u.Valid →
      (Value.instant t).compare (.instant u) =
        some ((Ord.compare t.clock u.clock).then (Ord.compare t.fraction u.fraction)) ∧
      (t.second = 60 →
        (u.clock ≤ t.clock → u.second < 60 →
          (Value.instant u).compare (.instant t) = some .lt) ∧
        (t.clock < u.clock → (Value.instant t).compare (.instant u) = some .lt) ∧
        t.nextMinute.clock = t.clock + 1 ∧
        (Value.instant t).compare (.instant t.nextMinute) = some .lt) := by
  refine ⟨Value.compare_swap, fun a b => Value.compare_of_isNull, ?_, ?_, ?_, ?_⟩
  · intro a b same real
    exact ⟨Value.compare_of_sameType same real, Value.compare_eq_iff same real⟩
  · intro a b c ab bc real first second
    exact Value.compare_trans_exact ab bc real first second
  · intro d e
    exact congrArg some (Decimal.compare_eq d e)
  · intro t u left right
    refine ⟨congrArg some (Instant.compare_moments left right), fun leap => ?_⟩
    have next := Instant.clock_nextMinute left leap
    refine ⟨?_, ?_, next, ?_⟩
    · intro clock other
      exact congrArg some (Instant.before_leap left right leap other clock)
    · intro clock
      exact congrArg some (Instant.compare_of_clock left right clock)
    · exact congrArg some (Instant.compare_of_clock left left.nextMinute (by omega))

/-- The last second of 2016, a leap second, and the second before it; 3e1 and 30.0; a number below
10 and one above -10; a number and a text. -/
theorem comparison_exact_leap :
    let leap : Instant := ⟨⟨2016, 12, 31⟩, 1439, 60, 250000000⟩
    let before : Instant := ⟨⟨2016, 12, 31⟩, 1439, 59, 999999999⟩
    leap.Valid ∧ before.Valid ∧
      (Value.instant before).compare (.instant leap) = some .lt ∧
      leap.nextMinute = ⟨⟨2017, 1, 1⟩, 0, 0, 0⟩ ∧
      (Value.instant leap).compare (.instant leap.nextMinute) = some .lt ∧
      Value.SameType (.number ⟨3, -1⟩) (.number ⟨300, 1⟩) ∧
      (Value.number ⟨3, -1⟩).compare (.number ⟨300, 1⟩) = some .eq ∧
      (Value.number ⟨3, -1⟩ == .number ⟨300, 1⟩) = true ∧
      (Value.number ⟨-123, -400⟩).compare (.number ⟨3, -1⟩) ≠ some .gt ∧
      (Value.number ⟨-123, -400⟩).compare (.number ⟨300, 1⟩) = some .lt ∧
      (Value.number ⟨30, 0⟩).compare (.text "30") = none := by
  intro leap before
  obtain ⟨-, -, within, order, -, moments⟩ := comparison_exact
  have valid : leap.Valid := ⟨by decide, by decide, by decide, by simp [leap]⟩
  have valid' : before.Valid := ⟨by decide, by decide, by decide, by simp [before]⟩
  obtain ⟨-, leaps⟩ := moments leap before valid valid'
  obtain ⟨earlier, -, -, next⟩ := leaps rfl
  have alike (d e : Decimal) : Value.SameType (.number d) (.number e) := .number d e
  have less : (Value.number ⟨-123, -400⟩).compare (.number ⟨3, -1⟩) = some .lt := by decide
  have same : (Value.number ⟨3, -1⟩).compare (.number ⟨300, 1⟩) = some .eq := by decide
  have through := order _ _ _ (alike ⟨-123, -400⟩ ⟨3, -1⟩) (alike ⟨3, -1⟩ ⟨300, 1⟩) rfl
    (by rw [less]; decide) (by rw [same]; decide)
  refine ⟨valid, valid', earlier (by decide) (by decide), by decide, next, alike _ _, same,
    (within _ _ (alike _ _) rfl).2.mp same, ?_, ?_, rfl⟩
  · rw [less]
    decide
  · rcases through with before | ⟨-, equal, -⟩
    · exact before
    · rw [less] at equal
      cases equal

end RecordQuery
