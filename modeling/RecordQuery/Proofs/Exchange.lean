import RecordQuery.Proofs.Binding
import RecordQuery.Proofs.ValueOrder

/-! The two sides of a comparison. They can be exchanged anywhere in a formula: it binds as before,
and to the same test, although binding looks at one side first and a null on the right is found
before one on the left. -/
namespace RecordQuery

namespace Comparison

/-- The comparison as it reads from right to left. -/
def mirrored : Comparison → Comparison
  | eq => eq
  | ne => ne
  | lt => gt
  | le => ge
  | gt => lt
  | ge => le

@[simp] theorem mirrored_beq_eq (c : Comparison) : (c.mirrored == eq) = (c == eq) := by
  cases c <;> rfl

@[simp] theorem mirrored_beq_ne (c : Comparison) : (c.mirrored == ne) = (c == ne) := by
  cases c <;> rfl

@[simp] theorem holds_mirrored (c : Comparison) (order : Ordering) :
    c.mirrored.holds order.swap = c.holds order := by
  cases c <;> cases order <;> rfl

end Comparison

@[simp] theorem compareTruth_mirrored (c : Comparison) (a b : Option Value) :
    compareTruth c.mirrored b a = compareTruth c a b := by
  cases a with
  | none => cases b <;> rfl
  | some u =>
    cases b with
    | none => rfl
    | some v =>
      -- a text is read as what the other side is, whichever side it stands on
      simp only [compareTruth, v.compare_swap u]
      cases u.compare v <;> simp

/-- Only one of the two checks is of a field against a literal, so their order does not show. -/
theorem checkLiteral_comm (l r : Operand α) (t : α → Truth) :
    (do checkLiteral l r; checkLiteral r l; return t) =
      (do checkLiteral r l; checkLiteral l r; return t : Except BindError (α → Truth)) := by
  cases l with
  | literal v =>
    cases r with
    | literal w => rfl
    | field path f => cases checkLiteral (.field path f) (.literal v) <;> rfl
  | field path f =>
    cases r with
    | literal w => cases checkLiteral (.field path f) (.literal w) <;> rfl
    | field path' f' => rfl

theorem Operand.value?_of_isNullLiteral {o : Operand α} (null : o.isNullLiteral = true) (x : α) :
    o.value? x = none := by
  cases o with
  | literal v => exact if_pos null
  | field path f => cases null

theorem bindComparison_mirrored (l : Operand α) (c : Comparison) (r : Operand α) :
    bindComparison r c.mirrored l = bindComparison l c r := by
  simp only [bindComparison, Comparison.mirrored_beq_eq, Comparison.mirrored_beq_ne,
    compareTruth_mirrored, checkLiteral_comm r l]
  cases left : l.isNullLiteral with
  | false => simp
  | true =>
    cases right : r.isNullLiteral with
    | false => simp
    | true =>
      -- each order of the sides asks whether the other null is there
      simp only [Operand.value?_of_isNullLiteral left, Operand.value?_of_isNullLiteral right]

namespace Formula

/-- Some of the comparisons, at any depth, have their sides exchanged. -/
inductive Exchanges : Formula → Formula → Prop where
  | refl (f : Formula) : Exchanges f f
  | turned {l l' r r' : Formula} (c : Comparison) : Exchanges l l' → Exchanges r r' →
      Exchanges (compare l c r) (compare r' c.mirrored l')
  | compare {l l' r r' : Formula} (c : Comparison) : Exchanges l l' → Exchanges r r' →
      Exchanges (compare l c r) (compare l' c r')
  | textTest {l l' r r' : Formula} (test : TextTest) (negated : Bool) : Exchanges l l' →
      Exchanges r r' → Exchanges (textTest test negated l r) (textTest test negated l' r')
  | join {l l' r r' : Formula} (logic : Logic) : Exchanges l l' → Exchanges r r' →
      Exchanges (join logic l r) (join logic l' r')
  | not {f f' : Formula} : Exchanges f f' → Exchanges (not f) (not f')

variable {α : Type} {schema : Schema α} {record : Placeholder} {slots : List (Option Value)}

/-- What has sides that could be exchanged is no operand. -/
theorem Exchanges.operand {f g : Formula} (exchanged : f.Exchanges g) :
    f.operand schema record slots = g.operand schema record slots := by
  cases exchanged <;> rfl

theorem bind_compare {l r : Formula} {c : Comparison} {test : α → Truth} :
    (compare l c r).bind schema record slots = .ok test ↔
      ∃ a b, l.operand schema record slots = .ok a ∧ r.operand schema record slots = .ok b ∧
        bindComparison a c b = .ok test := by
  simp only [bind, bind_eq_ok, exists_and_left]

theorem Exchanges.bind {f g : Formula} (exchanged : f.Exchanges g) (test : α → Truth) :
    f.bind schema record slots = .ok test ↔ g.bind schema record slots = .ok test := by
  induction exchanged generalizing test with
  | refl => rfl
  | turned c left right =>
    simp only [bind_compare, left.operand, right.operand]
    constructor
    · rintro ⟨a, b, first, second, bound⟩
      exact ⟨b, a, second, first, (bindComparison_mirrored a c b).trans bound⟩
    · rintro ⟨b, a, second, first, bound⟩
      exact ⟨a, b, first, second, (bindComparison_mirrored a c b).symm.trans bound⟩
  | compare c left right => simp only [bind_compare, left.operand, right.operand]
  | textTest test negated left right => simp only [Formula.bind, left.operand, right.operand]
  | join logic _ _ left right => simp only [Formula.bind, bind_eq_ok, left, right]
  | not _ ih => simp only [Formula.bind, bind_eq_ok, ih]

end Formula

/-- Formulas that differ in which sides of comparisons stand on the left bind under the same
schemas, and a record is the same to both: an operand may be a field of any kind or of none, a value
or a slot, and null among them. -/
theorem exchanged_alike {f g : Formula} (exchanged : f.Exchanges g) (schema : Schema α)
    (record : Placeholder) (slots : List (Option Value)) :
    ((∃ s, f.bind schema record slots = .ok s) ↔ ∃ t, g.bind schema record slots = .ok t) ∧
    ∀ s t, f.bind schema record slots = .ok s → g.bind schema record slots = .ok t →
      ∀ x, s x = t x := by
  constructor
  · exact exists_congr exchanged.bind
  · intro s t bound bound' x
    have same : g.bind schema record slots = .ok s := (exchanged.bind s).mp bound
    obtain rfl : s = t := Except.ok.inj (same.symm.trans bound')
    rfl

/-- Without an age, or of the name that is in the first slot and not under 18. -/
def namedAdult : Formula :=
  .join .or (.compare (.field ⟨0⟩ "age") .eq (.slot 1))
    (.join .and (.compare (.slot 0) .eq (.field ⟨0⟩ "name"))
      (.not (.compare (.field ⟨0⟩ "age") .lt (.literal (.ofInt 18)))))

/-- The same, read from the other side. -/
def adultNamed : Formula :=
  .join .or (.compare (.slot 1) .eq (.field ⟨0⟩ "age"))
    (.join .and (.compare (.field ⟨0⟩ "name") .eq (.slot 0))
      (.not (.compare (.literal (.ofInt 18)) .gt (.field ⟨0⟩ "age"))))

theorem exchanged_alike_people :
    ∃ s t, namedAdult.bind personSchema ⟨0⟩ [some (.text "Ann"), some .null] = .ok s ∧
      adultNamed.bind personSchema ⟨0⟩ [some (.text "Ann"), some .null] = .ok t ∧
      s = t ∧ t ("Bob", none) = .yes ∧ t ("Ann", some 40) = .yes ∧ t ("Ann", some 17) = .no := by
  have exchanged : namedAdult.Exchanges adultNamed := by
    apply Formula.Exchanges.join
    · exact .turned .eq (.refl _) (.refl _)
    apply Formula.Exchanges.join
    · exact .turned .eq (.refl _) (.refl _)
    · exact .not (.turned .lt (.refl _) (.refl _))
  obtain ⟨binds, same⟩ :=
    exchanged_alike exchanged personSchema ⟨0⟩ [some (.text "Ann"), some .null]
  obtain ⟨t, bound'⟩ := binds.mp ⟨_, rfl⟩
  refine ⟨_, t, rfl, bound', funext (same _ t rfl bound'), ?_⟩
  cases bound'
  exact ⟨rfl, rfl, rfl⟩

/-- Which of two faults is met first may change. -/
example : (Formula.compare (.field ⟨0⟩ "city") .lt (.slot 0)).bind personSchema ⟨0⟩ [] ≠
    (Formula.compare (.slot 0) .gt (.field ⟨0⟩ "city")).bind personSchema ⟨0⟩ [] := nofun

end RecordQuery
