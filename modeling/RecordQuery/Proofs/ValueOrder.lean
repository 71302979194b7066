import RecordQuery.Proofs.DecimalOrder
import RecordQuery.SortKey

/-! The order of values. It is reversed when the values change places, and it is transitive among
values of one type. -/
namespace RecordQuery

instance : Std.TransCmp Decimal.compare := by
  have same : Decimal.compare = compareOn Decimal.value :=
    funext fun a => funext fun b => Decimal.compare_eq a b
  rw [same]
  infer_instance

instance : Std.TransCmp Uuid.compare :=
  inferInstanceAs (Std.TransCmp (compareOn fun u : Uuid => u.digits.map Fin.val))

instance : Std.TransCmp Instant.compare :=
  inferInstanceAs (Std.TransCmp (compareOn fun t : Instant =>
    [t.date.year, (t.date.month : Int), t.date.day, t.minute, t.second, t.nano]))

namespace Value

/-- Two values of one type. -/
inductive SameType : Value → Value → Prop where
  | null : SameType null null
  | bool (a b : Bool) : SameType (bool a) (bool b)
  | number (a b : Decimal) : SameType (number a) (number b)
  | uuid (a b : Uuid) : SameType (uuid a) (uuid b)
  | instant (a b : Instant) : SameType (instant a) (instant b)
  | text (a b : String) : SameType (text a) (text b)

theorem sameType_iff (a b : Value) : SameType a b ↔ a.typeName = b.typeName := by
  constructor
  · rintro ⟨⟩ <;> rfl
  · intro same
    cases a <;> cases b <;> first
      | constructor
      | simp [typeName] at same

instance (a b : Value) : Decidable (SameType a b) := decidable_of_iff _ (sameType_iff a b).symm

section

variable {β : Type} {cmp : β → β → Ordering}

/-- What is compared with a reading of a text, from either side. -/
theorem reading_swap [Std.OrientedCmp cmp] (reading : Option β) (x : β) :
    reading.map (cmp x ·) = (reading.map (cmp · x)).map Ordering.swap ∧
      reading.map (cmp · x) = (reading.map (cmp x ·)).map Ordering.swap := by
  cases reading with
  | none => exact ⟨rfl, rfl⟩
  | some y => exact ⟨congrArg some Std.OrientedCmp.eq_swap, congrArg some Std.OrientedCmp.eq_swap⟩

theorem some_ne_gt (o : Ordering) : some o ≠ some .gt ↔ o.isLE = true := by
  cases o <;> decide

theorem some_trans [Std.TransCmp cmp] {x y z : β} (first : some (cmp x y) ≠ some .gt)
    (second : some (cmp y z) ≠ some .gt) : some (cmp x z) ≠ some .gt := by
  rw [some_ne_gt] at first second ⊢
  exact Std.TransCmp.isLE_trans first second

end

/-- A number is compared by its size, not by its digits and its scale. -/
theorem compare_number_congr {d e : Decimal} (size : d.value = e.value) (w : Value) :
    (number d).compare w = (number e).compare w := by
  cases w <;> simp [compare, Decimal.compare_eq, size]

theorem compare_swap (a b : Value) : a.compare b = (b.compare a).map Ordering.swap := by
  cases a <;> cases b <;> first
    | rfl
    | exact congrArg some Std.OrientedCmp.eq_swap
    | exact (reading_swap _ _).1
    | exact (reading_swap _ _).2

theorem compare_trans {a b c : Value} (ab : SameType a b) (bc : SameType b c)
    (first : a.compare b ≠ some .gt) (second : b.compare c ≠ some .gt) :
    a.compare c ≠ some .gt := by
  cases ab with
  | null => exact second
  | bool => cases bc; exact some_trans first second
  | number => cases bc; exact some_trans first second
  | uuid => cases bc; exact some_trans first second
  | instant => cases bc; exact some_trans first second
  | text => cases bc; exact some_trans first second

theorem compare_of_sameType {a b : Value} (same : SameType a b) (real : a.isNull = false) :
    ∃ order, a.compare b = some order := by
  cases same with
  | null => cases real
  | bool | number | uuid | instant | text => exact ⟨_, rfl⟩

/-- Whether a value is one that JSON has a scalar for. -/
def isPlain : Value → Bool
  | bool _ | number _ | text _ => true
  | _ => false

theorem compare_of_plain {a b : Value} (left : a.isPlain = true) (right : b.isPlain = true)
    (other : ¬ SameType a b) : a.compare b = none := by
  cases a <;> cases b <;> first
    | rfl
    | exact absurd (by constructor) other
    | exact absurd left Bool.false_ne_true
    | exact absurd right Bool.false_ne_true

end Value

variable {a b c : Option Value}

theorem compareValues_swap (a b : Option Value) :
    compareValues a b = (compareValues b a).swap := by
  cases a with
  | none => cases b <;> rfl
  | some u =>
    cases b with
    | none => rfl
    | some v =>
      rw [compareValues, compareValues, Value.compare_swap]
      cases v.compare u <;> rfl

theorem getD_ne_gt (o : Option Ordering) : o.getD .eq ≠ .gt ↔ o ≠ some .gt := by
  cases o <;> simp

/-- Of one type, where both are there. -/
def Alike (a b : Option Value) : Prop := ∀ u v, a = some u → b = some v → u.SameType v

instance (a b : Option Value) : Decidable (Alike a b) :=
  decidable_of_iff (∀ u ∈ a, ∀ v ∈ b, u.SameType v)
    ⟨fun alike u v left right => alike u left v right,
      fun alike u left v right => alike u v left right⟩

theorem alike_some {u v : Value} : Alike (some u) (some v) ↔ u.SameType v := by
  simp [Alike]

theorem compareValues_trans (ab : Alike a b) (bc : Alike b c) (first : compareValues a b ≠ .gt)
    (second : compareValues b c ≠ .gt) : compareValues a c ≠ .gt := by
  cases a with
  | none => cases c <;> simp [compareValues]
  | some u =>
    cases b with
    | none => exact absurd rfl first
    | some v =>
      cases c with
      | none => exact absurd rfl second
      | some w =>
        rw [compareValues, getD_ne_gt] at first second ⊢
        exact Value.compare_trans (alike_some.mp ab) (alike_some.mp bc) first second

/-- Two values of one type and a third one of another type. -/
def Mixed (a b c : Option Value) : Prop :=
  ∃ u v w, a = some u ∧ b = some v ∧ c = some w ∧ u.SameType v ∧ ¬ u.SameType w

theorem Mixed.swap (mixed : Mixed a b c) : Mixed b a c := by
  obtain ⟨u, v, w, left, right, third, same, other⟩ := mixed
  rw [Value.sameType_iff] at same other
  refine ⟨v, u, w, right, left, third, (Value.sameType_iff v u).mpr same.symm, fun alike => ?_⟩
  exact other (same.trans ((Value.sameType_iff v w).mp alike))

/-- A value, if there is one, that JSON has a scalar for. -/
def Plain (a : Option Value) : Prop := ∀ v, a = some v → v.isPlain = true

theorem Mixed.ties (mixed : Mixed a b c) (pa : Plain a) (pb : Plain b) (pc : Plain c) :
    compareValues b c = .eq ∧ compareValues c a = .eq := by
  obtain ⟨u, v, w, rfl, rfl, rfl, same, other⟩ := mixed
  rw [Value.sameType_iff] at same other
  have vw : ¬ v.SameType w := by rwa [Value.sameType_iff, ← same]
  have wu : ¬ w.SameType u := by rwa [Value.sameType_iff, eq_comm]
  rw [compareValues, compareValues, Value.compare_of_plain (pb v rfl) (pc w rfl) vw,
    Value.compare_of_plain (pc w rfl) (pa u rfl) wu]
  exact ⟨rfl, rfl⟩

/-- Plain values go up and come back to the first one only through a value of another type. -/
theorem mixed_of_circle (pa : Plain a) (pb : Plain b) (pc : Plain c)
    (up : compareValues a b = .lt) (on : compareValues b c ≠ .gt)
    (back : compareValues c a ≠ .gt) : Mixed a b c := by
  cases b with
  | none => cases a <;> cases up
  | some v =>
    cases c with
    | none => exact absurd rfl on
    | some w =>
      cases a with
      | none => exact absurd rfl back
      | some u =>
        have same : u.SameType v := by
          refine by_contra fun other => ?_
          rw [compareValues, Value.compare_of_plain (pa u rfl) (pb v rfl) other] at up
          cases up
        refine ⟨u, v, w, rfl, rfl, rfl, same, fun third => ?_⟩
        rw [Value.sameType_iff] at same third
        have vw : v.SameType w := (Value.sameType_iff v w).mpr (same.symm.trans third)
        have wu : w.SameType u := (Value.sameType_iff w u).mpr third.symm
        refine compareValues_trans (alike_some.mpr vw) (alike_some.mpr wu) on back ?_
        rw [compareValues_swap, up]
        rfl

end RecordQuery
