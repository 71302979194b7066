import RecordQuery.Proofs.RecordOrder
import RecordQuery.Proofs.StableSort

/-! Sorting records whose values under each key are of one type. -/
namespace RecordQuery

variable {α : Type}

instance (keys : List (BoundKey α)) : Std.OrientedCmp (compareRecords keys) where
  eq_swap {a b} := compareRecords_swap keys a b

/-- Under each key the values that the rows have are of one type. -/
def OneTyped (keys : List (BoundKey α)) (rows : List α) : Prop :=
  ∀ key ∈ keys, ∀ x ∈ rows, ∀ y ∈ rows, Alike (key.value x) (key.value y)

instance (keys : List (BoundKey α)) (rows : List α) : Decidable (OneTyped keys rows) :=
  inferInstanceAs (Decidable (∀ key ∈ keys, ∀ x ∈ rows, ∀ y ∈ rows,
    Alike (key.value x) (key.value y)))

theorem BoundKey.transCmp {key : BoundKey α} {rows : List α}
    (alike : ∀ x ∈ rows, ∀ y ∈ rows, Alike (key.value x) (key.value y)) :
    Std.TransCmp fun a b : {x // x ∈ rows} => key.compare a.val b.val where
  eq_swap {a b} := key.compare_swap a.val b.val
  isLE_trans {a b c} first second := by
    rw [← Ordering.ne_gt_iff_isLE] at first second ⊢
    have ab := alike a a.property b b.property
    have bc := alike b b.property c c.property
    cases direction : key.direction with
    | ascending =>
      rw [key.compare_ascending _ _ direction] at first second ⊢
      exact compareValues_trans ab bc first second
    | descending =>
      rw [key.compare_descending _ _ direction] at first second ⊢
      exact compareValues_trans (alike c c.property b b.property)
        (alike b b.property a a.property) second first

theorem compareRecords_transCmp {keys : List (BoundKey α)} {rows : List α}
    (typed : OneTyped keys rows) :
    Std.TransCmp fun a b : {x // x ∈ rows} => compareRecords keys a.val b.val := by
  induction keys with
  | nil =>
    exact { eq_swap := rfl, isLE_trans := fun _ _ => rfl }
  | cons key rest ih =>
    obtain ⟨first, others⟩ := List.forall_mem_cons.mp typed
    have := BoundKey.transCmp first
    have := ih others
    exact inferInstanceAs (Std.TransCmp (compareLex
      (fun a b : {x // x ∈ rows} => key.compare a.val b.val)
      (fun a b : {x // x ∈ rows} => compareRecords rest a.val b.val)))

theorem OneTyped.subset {keys : List (BoundKey α)} {rows kept : List α}
    (typed : OneTyped keys rows) (part : kept ⊆ rows) : OneTyped keys kept :=
  fun key member x hx y hy => typed key member x (part hx) y (part hy)

/-- Sorting such records by the keys arranges them. -/
theorem sort_arranged {keys : List (BoundKey α)} {rows : List α} (typed : OneTyped keys rows) :
    Arranged (compareRecords keys) rows (stableSort (compareRecords keys) rows) :=
  stableSort_arranged_on (compareRecords_transCmp typed)

end RecordQuery
