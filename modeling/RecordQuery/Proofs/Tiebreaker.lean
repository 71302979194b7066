import Mathlib.Data.List.Pairwise
import RecordQuery.Proofs.Requested

/-! Sorting with a tiebreaker. Where some key tells all rows apart, only one list of them is in
order, so it does not matter how they are stored. -/
namespace RecordQuery

variable {α : Type}

/-- No two values that a field reads from the records are equal. -/
def Differ (f : Field α) (x y : α) : Prop :=
  ∀ u v, f.value? x = some u → f.value? y = some v → u.compare v ≠ some .eq

instance (f : Field α) : Std.Symm (Differ f) where
  symm x y differ u v read read' same := by
    apply differ v u read' read
    rw [Value.compare_swap, same]
    rfl

/-- A field that has a value for each row, all of one type and no two of them equal. -/
structure Distinguishes (f : Field α) (rows : List α) : Prop where
  present : ∀ x ∈ rows, ∃ v, f.value? x = some v
  alike : ∀ x ∈ rows, ∀ y ∈ rows, Alike (f.value? x) (f.value? y)
  distinct : rows.Pairwise (Differ f)

theorem Distinguishes.eq_of_tie {f : Field α} {rows : List α} (apart : Distinguishes f rows)
    {a b : α} (ha : a ∈ rows) (hb : b ∈ rows)
    (tie : compareValues (f.value? a) (f.value? b) = .eq) : a = b := by
  obtain ⟨u, read⟩ := apart.present a ha
  obtain ⟨v, read'⟩ := apart.present b hb
  have real : u.isNull = false := by simpa using (Option.filter_eq_some_iff.mp read).2
  have alike := apart.alike a ha b hb u v read read'
  obtain ⟨order, ordered⟩ := Value.compare_of_sameType alike real
  by_contra other
  apply apart.distinct.forall ha hb other u v read read'
  rw [read, read', compareValues, ordered] at tie
  rw [ordered]
  exact congrArg some tie

section

variable {keys : List (BoundKey α)} {a b : α}

theorem tie_of_key {key : BoundKey α} (tie : key.compare a b = .eq) :
    compareValues (key.field.value? a) (key.field.value? b) = .eq := by
  unfold BoundKey.compare at tie
  cases direction : key.direction with
  | ascending => simpa [direction, Direction.apply] using tie
  | descending => simpa [direction, Direction.apply] using tie

/-- Rows that one of the keys tells apart compare equal only to themselves. -/
theorem eq_of_compareRecords {rows : List α} {key : BoundKey α} (member : key ∈ keys)
    (apart : Distinguishes key.field rows) (ha : a ∈ rows) (hb : b ∈ rows)
    (tie : compareRecords keys a b = .eq) : a = b :=
  apart.eq_of_tie ha hb (tie_of_key (compareRecords_eq_iff.mp tie key member))

end

/-- In order by a comparison that tells the elements apart, there is one list of them. -/
theorem Arranged.eq_of_perm {cmp : α → α → Ordering} [Std.OrientedCmp cmp]
    {before other after after' : List α}
    (strict : ∀ a ∈ before, ∀ b ∈ before, cmp a b = .eq → a = b) (perm : other.Perm before)
    (first : Arranged cmp before after) (second : Arranged cmp other after') : after' = after := by
  have shared := second.perm.trans perm
  refine List.Perm.eq_of_pairwise ?_ second.sorted first.sorted (shared.trans first.perm.symm)
  intro a b ha hb up down
  apply strict a (shared.mem_iff.mp ha) b (first.perm.mem_iff.mp hb)
  have swap : cmp b a = (cmp a b).swap := Std.OrientedCmp.eq_swap
  rw [swap] at down
  cases order : cmp a b <;> simp_all

namespace SortKey

variable {schema : Schema α} {keys : List SortKey} {bound : List (BoundKey α)} {field : String}
  {f : Field α}

theorem bindAll_singleton (known : schema field = some f) (direction : Direction) :
    bindAll schema [⟨field, direction⟩] = .ok [⟨f, direction⟩] := by
  simp only [bindAll, List.mapM_cons, bind, known]
  rfl

/-- Keys that bind are for fields that are there. -/
theorem bound_of_any (found : bindAll schema keys = .ok bound)
    (there : (keys.any fun k => k.field == field) = true) :
    ∃ f, schema field = some f ∧ ∃ key ∈ bound, key.field = f := by
  obtain ⟨k, member, same⟩ := List.any_eq_true.mp there
  obtain ⟨key, inside, made⟩ := mapM_ok_mem found k member
  rw [bind, beq_iff_eq.mp same] at made
  cases known : schema field with
  | none => simp [known] at made
  | some f =>
    rw [known] at made
    cases made
    exact ⟨f, rfl, _, inside, rfl⟩

/-- With a tiebreaker the keys bind where they do without it, if the field is there. Only the end of
the list is new, if anything, and some key is for the field. -/
theorem bindAll_ensureTiebreaker (found : bindAll schema keys = .ok bound)
    (known : schema field = some f) (direction : Direction) :
    ∃ more, bindAll schema (ensureTiebreaker field direction keys) = .ok (bound ++ more) ∧
      (∀ key ∈ more, key.field = f) ∧ ∃ key ∈ bound ++ more, key.field = f := by
  unfold ensureTiebreaker
  by_cases there : (keys.any fun k => k.field == field) = true
  · rw [if_pos there]
    refine ⟨[], by rwa [List.append_nil], nofun, ?_⟩
    obtain ⟨g, known', key, inside, same⟩ := bound_of_any found there
    obtain rfl := Option.some.inj (known.symm.trans known')
    exact ⟨key, List.mem_append_left _ inside, same⟩
  · rw [if_neg there]
    refine ⟨[⟨f, direction⟩], ?_, ?_, ?_⟩
    · exact bindAll_append found (bindAll_singleton known direction)
    · intro key member
      obtain rfl := List.mem_singleton.mp member
      rfl
    · exact ⟨_, List.mem_append_right _ List.mem_cons_self, rfl⟩

end SortKey

theorem Selection.order_select {schema : Schema α} {keys : List SortKey}
    {bound : List (BoundKey α)} (found : SortKey.bindAll schema keys = .ok bound)
    (rows : List α) :
    ∃ s, (Store.select ⟨schema, rows⟩).order keys = .ok s ∧
      s.rows = stableSort (compareRecords bound) rows := by
  exact ⟨(Store.select ⟨schema, rows⟩).push (.order bound), order_eq found, rows_push _ _⟩

theorem Selection.paginate_congr {s t : Selection α} (same : s.rows = t.rows)
    (request : PageRequest) :
    (paginate (m := Id) s request).run = (paginate (m := Id) t request).run := by
  rw [paginate_eq, paginate_eq]
  unfold page count
  rw [same]

/-- Ordering with a tiebreaker that tells the rows apart gives one list, and one page for each
request, however the rows are stored. Rows that the keys alone do not find equal are compared as
before. -/
theorem tiebreaker_exact {schema : Schema α} {keys : List SortKey} {bound : List (BoundKey α)}
    {field : String} {f : Field α} {rows : List α}
    (found : SortKey.bindAll schema keys = .ok bound) (known : schema field = some f)
    (typed : OneTyped bound rows) (apart : Distinguishes f rows) (direction : Direction) :
    ∃ strict,
      SortKey.bindAll schema (SortKey.ensureTiebreaker field direction keys) = .ok strict ∧
      (∀ a ∈ rows, ∀ b ∈ rows, compareRecords bound a b ≠ .eq →
        compareRecords strict a b = compareRecords bound a b) ∧
      ∃ (listed : List α) (page : PageRequest → Except FetchError (Page α)),
        Arranged (compareRecords strict) rows listed ∧
        ∀ stored : List α, stored.Perm rows →
          ∃ s, (Store.select ⟨schema, stored⟩).order
              (SortKey.ensureTiebreaker field direction keys) = .ok s ∧
            s.rows = listed ∧ ∀ request, (paginate (m := Id) s request).run = page request := by
  obtain ⟨more, bound', fields, key, member, rfl⟩ :=
    SortKey.bindAll_ensureTiebreaker found known direction
  have alike : OneTyped (bound ++ more) rows := by
    refine List.forall_mem_append.mpr ⟨typed, ?_⟩
    intro k inside
    rw [show k.value = key.field.value? from congrArg Field.value? (fields k inside)]
    exact apart.alike
  have strict : ∀ a ∈ rows, ∀ b ∈ rows, compareRecords (bound ++ more) a b = .eq → a = b :=
    fun a ha b hb => eq_of_compareRecords member apart ha hb
  have arranged := sort_arranged alike
  obtain ⟨first, -, listed⟩ := Selection.order_select bound' rows
  refine ⟨bound ++ more, bound', ?_, _,
    fun request => (paginate (m := Id) first request).run, arranged, ?_⟩
  · intro a _ b _ decided
    rw [compareRecords_append]
    cases order : compareRecords bound a b with
    | lt | gt => rfl
    | eq => exact absurd order decided
  · intro stored perm
    obtain ⟨s, ordered, sorted⟩ := Selection.order_select bound' stored
    have same := arranged.eq_of_perm strict perm (sort_arranged (alike.subset perm.subset))
    refine ⟨s, ordered, sorted.trans same, fun request => ?_⟩
    apply Selection.paginate_congr
    rw [sorted, same, listed]

def oldestFirst : BoundKey (String × Option Int) := ⟨byAge.field, .descending⟩

theorem oldestFirst_typed (rows : List (String × Option Int)) : OneTyped [oldestFirst] rows := by
  intro key only
  obtain rfl := List.mem_singleton.mp only
  exact byAge_typed rows byAge List.mem_cons_self

def nameField : Field (String × Option Int) := ⟨fun p => some (.text p.1), some .string⟩

theorem nameField_distinguishes {rows : List (String × Option Int)}
    (names : rows.Pairwise fun p q => p.1 ≠ q.1) : Distinguishes nameField rows := by
  constructor
  · intro x _
    exact ⟨_, rfl⟩
  · intro x _ y _
    exact alike_some.mpr (.text _ _)
  · apply names.imp
    intro x y other u v read read' same
    cases read
    cases read'
    exact other (Std.LawfulEqCmp.eq_of_compare (Option.some.inj same))

theorem tiebreaker_exact_people :
    let keys := SortKey.ensureTiebreaker "name" .ascending [⟨"age", .descending⟩]
    ∃ s t, (Store.select ⟨personSchema, [("Eve", some 41), ("Bob", none), ("Ann", some 41),
          ("Cy", none)]⟩).order keys = .ok s ∧
      (Store.select ⟨personSchema, [("Cy", none), ("Bob", none), ("Ann", some 41),
          ("Eve", some 41)]⟩).order keys = .ok t ∧
      s.rows = [("Ann", some 41), ("Eve", some 41), ("Bob", none), ("Cy", none)] ∧
      t.rows = s.rows ∧
      ∀ request, (paginate (m := Id) s request).run = (paginate (m := Id) t request).run := by
  intro keys
  have found : SortKey.bindAll personSchema [⟨"age", .descending⟩] = .ok [oldestFirst] := rfl
  have known : personSchema "name" = some nameField := rfl
  have apart : Distinguishes nameField [("Eve", some 41), ("Bob", none), ("Ann", some 41),
      ("Cy", none)] := nameField_distinguishes (by decide)
  obtain ⟨strict, bound, -, listed, page, -, independent⟩ :=
    tiebreaker_exact found known (oldestFirst_typed _) apart .ascending
  obtain ⟨s, ordered, rows, pages⟩ := independent _ (.refl _)
  obtain ⟨t, ordered', rows', pages'⟩ := independent [("Cy", none), ("Bob", none),
    ("Ann", some 41), ("Eve", some 41)] (by decide)
  refine ⟨s, t, ordered, ordered', ?_, rows'.trans rows.symm, fun request => ?_⟩
  · cases ordered
    decide
  · exact (pages request).trans (pages' request).symm

end RecordQuery
