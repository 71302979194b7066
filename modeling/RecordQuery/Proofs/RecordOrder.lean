import RecordQuery.Json.Path
import RecordQuery.Proofs.ValueOrder
import RecordQuery.Proofs.Verdict

/-! The order of records. It is reversed when the records change places; on records of JSON it is
transitive as long as no three of them go round in a circle. -/
namespace RecordQuery

variable {α : Type}

namespace BoundKey

variable (key : BoundKey α) (a b : α)

def value (a : α) : Option Value := key.field.value? a

theorem compare_ascending (up : key.direction = .ascending) :
    key.compare a b = compareValues (key.value a) (key.value b) := by
  rw [compare, up]
  rfl

theorem compare_descending (down : key.direction = .descending) :
    key.compare a b = compareValues (key.value b) (key.value a) := by
  rw [compare, down, compareValues_swap]
  exact Ordering.swap_swap

theorem compare_swap : key.compare a b = (key.compare b a).swap := by
  cases direction : key.direction with
  | ascending => simp only [compare_ascending _ _ _ direction, ← compareValues_swap]
  | descending => simp only [compare_descending _ _ _ direction, ← compareValues_swap]

def ReadsPlain : Prop := ∀ a, Plain (key.value a)

variable {key} {x y z : α}

theorem mixed_of_circle (plain : key.ReadsPlain) (up : key.compare x y = .lt)
    (on : key.compare y z ≠ .gt) (back : key.compare z x ≠ .gt) :
    Mixed (key.value x) (key.value y) (key.value z) := by
  cases direction : key.direction with
  | ascending =>
    rw [compare_ascending _ _ _ direction] at up on back
    exact RecordQuery.mixed_of_circle (plain x) (plain y) (plain z) up on back
  | descending =>
    rw [compare_descending _ _ _ direction] at up on back
    exact (RecordQuery.mixed_of_circle (plain y) (plain x) (plain z) up back on).swap

theorem ties_of_mixed (plain : key.ReadsPlain)
    (mixed : Mixed (key.value x) (key.value y) (key.value z)) :
    key.compare y z = .eq ∧ key.compare z x = .eq := by
  have ties := mixed.ties (plain x) (plain y) (plain z)
  unfold value at ties
  rw [compare, compare, ties.1, ties.2]
  cases key.direction <;> exact ⟨rfl, rfl⟩

end BoundKey

theorem compareRecords_swap (keys : List (BoundKey α)) (a b : α) :
    compareRecords keys a b = (compareRecords keys b a).swap := by
  induction keys with
  | nil => rfl
  | cons key rest ih =>
    rw [compareRecords, compareRecords, Ordering.swap_then, ← ih, ← key.compare_swap]

/-- Under some key, which the keys before it leave to decide, the first record comes before the
second one by values of one type, while the third one has a value of another type, and the keys
after it put neither the second one after the third one nor the third one after the first one. -/
inductive Circle : List (BoundKey α) → α → α → α → Prop where
  | here {key : BoundKey α} {rest : List (BoundKey α)} {x y z : α} :
      key.compare x y = .lt → Mixed (key.value x) (key.value y) (key.value z) →
      compareRecords rest y z ≠ .gt → compareRecords rest z x ≠ .gt →
        Circle (key :: rest) x y z
  | later {key : BoundKey α} {rest : List (BoundKey α)} {x y z : α} :
      key.compare x y = .eq → key.compare y z = .eq → key.compare z x = .eq →
      Circle rest x y z → Circle (key :: rest) x y z

theorem then_ne_gt {first second : Ordering} : first.then second ≠ .gt ↔
    first = .lt ∨ first = .eq ∧ second ≠ .gt := by
  cases first <;> simp [Ordering.then]

section

variable {keys : List (BoundKey α)} {x y z : α}

theorem Circle.goes_round (plain : ∀ key ∈ keys, key.ReadsPlain) (circle : Circle keys x y z) :
    compareRecords keys x y = .lt ∧ compareRecords keys y z ≠ .gt ∧
      compareRecords keys z x ≠ .gt := by
  induction circle with
  | here up mixed on back =>
    obtain ⟨yz, zx⟩ := BoundKey.ties_of_mixed (plain _ List.mem_cons_self) mixed
    simp only [compareRecords, up, yz, zx]
    exact ⟨rfl, on, back⟩
  | later xy yz zx rest ih =>
    simp only [compareRecords, xy, yz, zx]
    exact ih fun key member => plain key (List.mem_cons_of_mem _ member)

theorem circle_here {key : BoundKey α} {rest : List (BoundKey α)} (plain : key.ReadsPlain)
    (up : key.compare x y = .lt)
    (on : key.compare y z = .lt ∨ key.compare y z = .eq ∧ compareRecords rest y z ≠ .gt)
    (back : key.compare z x = .lt ∨ key.compare z x = .eq ∧ compareRecords rest z x ≠ .gt) :
    Circle (key :: rest) x y z := by
  have on' : key.compare y z ≠ .gt := by rcases on with h | ⟨h, -⟩ <;> simp [h]
  have back' : key.compare z x ≠ .gt := by rcases back with h | ⟨h, -⟩ <;> simp [h]
  have mixed := BoundKey.mixed_of_circle plain up on' back'
  obtain ⟨yz, zx⟩ := BoundKey.ties_of_mixed plain mixed
  rw [yz] at on
  rw [zx] at back
  exact .here up mixed (by simpa using on) (by simpa using back)

/-- Where the order goes round, one of its three steps is up at the key that decides. -/
theorem circle_of_goes_round (plain : ∀ key ∈ keys, key.ReadsPlain)
    (up : compareRecords keys x y = .lt) (on : compareRecords keys y z ≠ .gt)
    (back : compareRecords keys z x ≠ .gt) :
    Circle keys x y z ∨ Circle keys y z x ∨ Circle keys z x y := by
  induction keys with
  | nil => cases up
  | cons key rest ih =>
    have reads := plain key List.mem_cons_self
    have up' : compareRecords (key :: rest) x y ≠ .gt := by rw [up]; decide
    rw [compareRecords, then_ne_gt] at up' on back
    rcases up' with less | ⟨xy, xy'⟩
    · exact .inl (circle_here reads less on back)
    rcases on with less | ⟨yz, yz'⟩
    · exact .inr (.inl (circle_here reads less back (.inr ⟨xy, xy'⟩)))
    rcases back with less | ⟨zx, zx'⟩
    · exact .inr (.inr (circle_here reads less (.inr ⟨xy, xy'⟩) (.inr ⟨yz, yz'⟩)))
    rw [compareRecords, xy, Ordering.eq_then] at up
    rcases ih (fun key member => plain key (List.mem_cons_of_mem _ member)) up yz' zx' with
      found | found | found
    · exact .inl (.later xy yz zx found)
    · exact .inr (.inl (.later yz zx xy found))
    · exact .inr (.inr (.later zx xy yz found))

theorem Circle.mixed (circle : Circle keys x y z) :
    ∃ key ∈ keys, Mixed (key.value x) (key.value y) (key.value z) := by
  induction circle with
  | here _ mixed _ _ => exact ⟨_, List.mem_cons_self, mixed⟩
  | later _ _ _ _ ih =>
    obtain ⟨key, member, mixed⟩ := ih
    exact ⟨key, List.mem_cons_of_mem _ member, mixed⟩

end

/-- On these rows what does not come after a row does not come after those that this row does not
come after. -/
def TransitiveOn (keys : List (BoundKey α)) (rows : List α) : Prop :=
  ∀ a ∈ rows, ∀ b ∈ rows, ∀ c ∈ rows, compareRecords keys a b ≠ .gt →
    compareRecords keys b c ≠ .gt → compareRecords keys a c ≠ .gt

theorem transitiveOn_iff {keys : List (BoundKey α)} (plain : ∀ key ∈ keys, key.ReadsPlain)
    (rows : List α) : TransitiveOn keys rows ↔
      ∀ x ∈ rows, ∀ y ∈ rows, ∀ z ∈ rows, ¬ Circle keys x y z := by
  constructor
  · intro transitive x hx y hy z hz circle
    obtain ⟨up, on, back⟩ := circle.goes_round plain
    refine transitive y hy z hz x hx on back ?_
    rw [compareRecords_swap, up]
    rfl
  · intro straight a ha b hb c hc first second down
    have up : compareRecords keys c a = .lt := by
      rw [compareRecords_swap, down]
      rfl
    rcases circle_of_goes_round plain up first second with found | found | found
    · exact straight c hc a ha b hb found
    · exact straight a ha b hb c hc found
    · exact straight b hb c hc a ha found

namespace Json

theorem schema_plain {path : String} {f : Field Json} (found : schema path = some f)
    (record : Json) : Plain (f.value? record) := by
  intro v read
  obtain ⟨segments, -, rfl⟩ := Option.map_eq_some_iff.mp found
  have walked := (Option.filter_eq_some_iff.mp read).1
  obtain ⟨json, -, scalar⟩ := Option.bind_eq_some_iff.mp walked
  obtain ⟨made, real⟩ := Option.filter_eq_some_iff.mp scalar
  cases json <;> cases made <;> first | rfl | cases real

theorem bindAll_plain {keys : List SortKey} {bound : List (BoundKey Json)}
    (found : SortKey.bindAll schema keys = .ok bound) : ∀ key ∈ bound, key.ReadsPlain := by
  intro key member record
  obtain ⟨entry, -, made⟩ := mem_mapM_ok found key member
  rw [SortKey.bind] at made
  cases field : schema entry.field with
  | none =>
    rw [field] at made
    cases made
  | some f =>
    rw [field] at made
    cases made
    exact schema_plain field record

end Json

/-- An order of JSON records is reversed when the records change places. It is transitive on rows of
which no three go round in a circle, and on no others; so it is on rows whose values under each key
are of one type or missing. -/
theorem json_order_exact {keys : List SortKey} {bound : List (BoundKey Json)}
    (found : SortKey.bindAll Json.schema keys = .ok bound) :
    (∀ a b, compareRecords bound a b = (compareRecords bound b a).swap) ∧
    (∀ rows, TransitiveOn bound rows ↔
      ∀ x ∈ rows, ∀ y ∈ rows, ∀ z ∈ rows, ¬ Circle bound x y z) ∧
    ∀ rows, (∀ key ∈ bound, ∀ x ∈ rows, ∀ y ∈ rows, Alike (key.value x) (key.value y)) →
      TransitiveOn bound rows := by
  have exact := transitiveOn_iff (Json.bindAll_plain found)
  refine ⟨compareRecords_swap bound, exact, fun rows alike => (exact rows).mpr ?_⟩
  intro x hx y _ z hz circle
  obtain ⟨key, member, u, v, w, read, -, read', -, other⟩ := circle.mixed
  exact other (alike key member x hx z hz u w read read')

/-- Records with a single member. -/
def single (k : Json) : Json := .object [("k", k)]

theorem json_order_exact_circle :
    ∃ bound, SortKey.bindAll Json.schema [⟨"k", .ascending⟩] = .ok bound ∧
      ¬ TransitiveOn bound [single (.number (.int 1)), single (.number (.int 2)),
        single (.string "a")] ∧
      TransitiveOn bound [single (.string "b"), single .null, single (.string "a")] := by
  let key : BoundKey Json := ⟨⟨Json.readPath ["k"], none⟩, .ascending⟩
  have found : SortKey.bindAll Json.schema [⟨"k", .ascending⟩] = .ok [key] := rfl
  obtain ⟨-, exact, oneType⟩ := json_order_exact found
  refine ⟨[key], found, fun transitive => ?_, oneType _ ?_⟩
  · refine (exact _).mp transitive (single (.number (.int 1))) (by simp)
      (single (.number (.int 2))) (by simp) (single (.string "a")) (by simp) ?_
    exact .here (by decide) ⟨_, _, _, rfl, rfl, rfl, .number _ _, nofun⟩ (by decide) (by decide)
  · intro k member x hx y hy u v read read'
    obtain rfl := List.mem_singleton.mp member
    simp only [List.mem_cons, List.not_mem_nil, or_false] at hx hy
    rcases hx with rfl | rfl | rfl <;> rcases hy with rfl | rfl | rfl <;> cases read <;>
      cases read' <;> exact .text _ _

/-- Two numbers out of order on either side of a text, to which they compare equal. -/
theorem json_order_not_transitive :
    ∃ bound, SortKey.bindAll Json.schema [⟨"k", .ascending⟩] = .ok bound ∧
      compareRecords bound (single (.number (.int 2))) (single (.string "a")) ≠ .gt ∧
      compareRecords bound (single (.string "a")) (single (.number (.int 1))) ≠ .gt ∧
      compareRecords bound (single (.number (.int 2))) (single (.number (.int 1))) = .gt := by
  refine ⟨_, rfl, ?_, ?_, ?_⟩
  · decide
  · decide
  · decide

end RecordQuery
