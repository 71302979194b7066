import RecordQuery.Proofs.Paging
import RecordQuery.Proofs.RecordSort

/-! The step of a selection that puts its rows in order. On rows whose values under each key are of
one type the order of records is a total preorder, in which the first key that tells two records
apart decides, and the step arranges the rows by it. -/
namespace RecordQuery

variable {α : Type}

section

variable {keys : List (BoundKey α)} {a b : α}

theorem compareRecords_append (keys rest : List (BoundKey α)) (a b : α) :
    compareRecords (keys ++ rest) a b =
      (compareRecords keys a b).then (compareRecords rest a b) := by
  induction keys with
  | nil => rfl
  | cons key keys ih =>
    rw [List.cons_append, compareRecords, ih, compareRecords, Ordering.then_assoc]

theorem compareRecords_eq_iff :
    compareRecords keys a b = .eq ↔ ∀ key ∈ keys, key.compare a b = .eq := by
  induction keys with
  | nil => simp [compareRecords]
  | cons key keys ih => rw [compareRecords, Ordering.then_eq_eq, ih, List.forall_mem_cons]

/-- A key tells two records apart that are equal under all keys before it. -/
def Decides (keys : List (BoundKey α)) (key : BoundKey α) (a b : α) : Prop :=
  ∃ before after, keys = before ++ key :: after ∧ (∀ k ∈ before, k.compare a b = .eq) ∧
    key.compare a b ≠ .eq

theorem compareRecords_of_decides {key : BoundKey α} (decides : Decides keys key a b) :
    compareRecords keys a b = key.compare a b := by
  obtain ⟨before, after, rfl, ties, apart⟩ := decides
  rw [compareRecords_append, compareRecords_eq_iff.mpr ties, Ordering.eq_then, compareRecords]
  cases order : key.compare a b with
  | eq => exact absurd order apart
  | lt | gt => rfl

end

/-- Under a key a record for which its field reads nothing, or null, comes before all records that
have a value for it if the key is ascending, and after them if it is descending. -/
theorem BoundKey.compare_nothing (key : BoundKey α) {a b : α} {v : Value}
    (nothing : key.field.read a = none ∨ key.field.read a = some .null)
    (read : key.field.read b = some v) (real : v.isNull = false) :
    key.compare a b = if key.direction = .ascending then .lt else .gt := by
  have left : key.field.value? a = none := by
    rcases nothing with missing | null
    · rw [Field.value?, missing, Option.filter_none]
    · rw [Field.value?, null]
      rfl
  have right : key.field.value? b = some v := by
    rw [Field.value?, read, Option.filter_some, real]
    rfl
  rw [compare, left, right, compareValues]
  cases key.direction <;> rfl

theorem transitiveOn_of_oneTyped {keys : List (BoundKey α)} {rows : List α}
    (typed : OneTyped keys rows) : TransitiveOn keys rows := by
  have order := compareRecords_transCmp typed
  intro a ha b hb c hc first second
  replace first := Ordering.ne_gt_iff_isLE.mp first
  replace second := Ordering.ne_gt_iff_isLE.mp second
  have through := @Std.TransCmp.isLE_trans _ _ order ⟨a, ha⟩ ⟨b, hb⟩ ⟨c, hc⟩ first second
  exact Ordering.ne_gt_iff_isLE.mpr through

theorem SortKey.bindAll_append_eq (schema : Schema α) (keys more : List SortKey) :
    bindAll schema (keys ++ more) = do
      let bound ← bindAll schema keys
      let others ← bindAll schema more
      return bound ++ others := List.mapM_append

theorem SortKey.bindAll_append {schema : Schema α} {keys more : List SortKey}
    {bound others : List (BoundKey α)} (found : bindAll schema keys = .ok bound)
    (found' : bindAll schema more = .ok others) :
    bindAll schema (keys ++ more) = .ok (bound ++ others) := by
  rw [bindAll_append_eq, found, found']
  rfl

theorem Selection.filter_eq {s : Selection α} {f : Filter} {test : α → Truth}
    (bound : f.bind s.store.schema = .ok test) : s.filter f = .ok (s.push (.filter test)) := by
  rw [filter, bound]

theorem Selection.order_eq {s : Selection α} {keys : List SortKey} {bound : List (BoundKey α)}
    (found : SortKey.bindAll s.store.schema keys = .ok bound) :
    s.order keys = .ok (s.push (.order bound)) := by
  rw [order, found]

/-- Where the values of the rows are of one type under each key, their order is a total preorder:
records without a value come first under an ascending key and last under a descending one, and a
later key decides only where all keys before it leave it to do so. Ordering a selection permutes its
rows so that they are in order and rows that are equal in it stay as they stood. -/
theorem order_step_exact {s : Selection α} {keys : List SortKey} {bound : List (BoundKey α)}
    (found : SortKey.bindAll s.store.schema keys = .ok bound) (typed : OneTyped bound s.rows) :
    (∀ a, compareRecords bound a a = .eq) ∧
    (∀ a b, compareRecords bound a b = (compareRecords bound b a).swap) ∧
    TransitiveOn bound s.rows ∧
    (∃ next, s.order keys = .ok next ∧ next.store = s.store ∧
      Arranged (compareRecords bound) s.rows next.rows) ∧
    (∀ key ∈ bound, ∀ a b v, (key.field.read a = none ∨ key.field.read a = some .null) →
      key.field.read b = some v → v.isNull = false →
        key.compare a b = if key.direction = .ascending then .lt else .gt) ∧
    ∀ a b, (compareRecords bound a b = .eq ↔ ∀ key ∈ bound, key.compare a b = .eq) ∧
      ∀ key, Decides bound key a b → compareRecords bound a b = key.compare a b := by
  refine ⟨fun _ => Std.ReflCmp.compare_self, compareRecords_swap bound,
    transitiveOn_of_oneTyped typed, ?_, ?_, fun a b => ⟨compareRecords_eq_iff, fun key => ?_⟩⟩
  · refine ⟨_, Selection.order_eq found, rfl, ?_⟩
    rw [Selection.rows_push]
    exact sort_arranged typed
  · intro key _ a b v nothing read real
    exact key.compare_nothing nothing read real
  · exact compareRecords_of_decides

/-- Records with a group, which may be null, and a number. -/
def grouped (g : Json) (n : Int) : Json := .object [("g", g), ("n", .number (.int n))]

/-- The rows behind the first one, a number in the place of a text, which is skipped. -/
theorem order_step_exact_grouped :
    let a := Json.string "a"
    let same : Json := .object [("n", .number (.int 1)), ("g", a)]
    let s : Selection Json := ⟨⟨Json.schema, [grouped (.number (.int 5)) 0, grouped a 2,
      grouped .null 3, grouped a 1, grouped (.string "b") 7, same]⟩, [.skip 1]⟩
    ∃ bound, SortKey.bindAll Json.schema [⟨"g", .descending⟩, ⟨"n", .ascending⟩] = .ok bound ∧
      OneTyped bound s.rows ∧
      ∃ next, s.order [⟨"g", .descending⟩, ⟨"n", .ascending⟩] = .ok next ∧
        Arranged (compareRecords bound) s.rows next.rows ∧
        next.rows = [grouped (.string "b") 7, grouped a 1, same, grouped a 2, grouped .null 3] := by
  intro a same s
  let bound : List (BoundKey Json) :=
    [⟨⟨Json.readPath ["g"], none⟩, .descending⟩, ⟨⟨Json.readPath ["n"], none⟩, .ascending⟩]
  have found : SortKey.bindAll s.store.schema [⟨"g", .descending⟩, ⟨"n", .ascending⟩] =
      .ok bound := rfl
  have typed : OneTyped bound s.rows := by decide
  obtain ⟨-, -, -, ⟨next, ordered, -, arranged⟩, -, -⟩ := order_step_exact found typed
  refine ⟨bound, found, typed, next, ordered, arranged, ?_⟩
  cases ordered
  rfl

end RecordQuery
