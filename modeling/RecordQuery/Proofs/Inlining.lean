import RecordQuery.Proofs.Combination
import RecordQuery.Proofs.Slots

/-! Filters and the lambdas that they become when the values of their slots are put in. Looking a
value up while binding and putting it in beforehand come to the same. -/
namespace RecordQuery

namespace Formula

/-- Every slot is a side of a comparison or of a text test. -/
def SlotsAreOperands : Formula → Prop
  | slot _ => False
  | compare l _ r | textTest _ _ l r =>
    ((∃ i, l = slot i) ∨ l.SlotsAreOperands) ∧ ((∃ i, r = slot i) ∨ r.SlotsAreOperands)
  | join _ l r => l.SlotsAreOperands ∧ r.SlotsAreOperands
  | not inner => inner.SlotsAreOperands
  | const _ | literal _ | field _ _ => True

variable {α : Type} {schema : Schema α} {record : Placeholder} {slots : List (Option Value)}

theorem slotValue_ok {i : Nat} {v : Value} (found : slotValue slots i = .ok v) :
    slots[i]? = some (some v) := by
  unfold slotValue at found
  split at found
  · rename_i w held
    cases found
    exact held
  · cases found

/-- Every slot that is mentioned holds a value. -/
def Held (slots : List (Option Value)) (f : Formula) : Prop :=
  ∀ i ∈ f.slotIndices, ∃ v, slots[i]? = some (some v)

theorem slots_of_operand {f : Formula} {o : Operand α}
    (found : f.operand schema record slots = .ok o) :
    ((∃ i, f = slot i) ∨ f.SlotsAreOperands) ∧ f.Held slots := by
  cases f with
  | slot i =>
    obtain ⟨v, held, -⟩ := bind_eq_ok.mp found
    refine ⟨.inl ⟨i, rfl⟩, ?_⟩
    intro j member
    obtain rfl := List.mem_singleton.mp member
    exact ⟨v, slotValue_ok held⟩
  | const | literal | field => exact ⟨.inr trivial, fun _ member => nomatch member⟩
  | compare | textTest | join | not => cases found

theorem slots_of_bind {f : Formula} {t : α → Truth} (bound : f.bind schema record slots = .ok t) :
    f.SlotsAreOperands ∧ f.Held slots := by
  induction f generalizing t with
  | const | literal => exact ⟨trivial, fun _ member => nomatch member⟩
  | slot | field => cases bound
  | compare l _ r _ _ | textTest _ _ l r _ _ =>
    obtain ⟨a, left, rest⟩ := bind_eq_ok.mp bound
    obtain ⟨b, right, -⟩ := bind_eq_ok.mp rest
    obtain ⟨placed, held⟩ := slots_of_operand left
    obtain ⟨placed', held'⟩ := slots_of_operand right
    exact ⟨⟨placed, placed'⟩, List.forall_mem_append.mpr ⟨held, held'⟩⟩
  | join _ l r ihl ihr =>
    obtain ⟨s, left, rest⟩ := bind_eq_ok.mp bound
    obtain ⟨u, right, -⟩ := bind_eq_ok.mp rest
    obtain ⟨placed, held⟩ := ihl left
    obtain ⟨placed', held'⟩ := ihr right
    exact ⟨⟨placed, placed'⟩, List.forall_mem_append.mpr ⟨held, held'⟩⟩
  | not inner ih =>
    obtain ⟨s, below, -⟩ := bind_eq_ok.mp bound
    exact ih below

theorem operand_inline (schema : Schema α) (record : Placeholder) {f g : Formula}
    (inlined : f.inline slots = .ok g) :
    g.operand schema record [] = f.operand schema record slots := by
  cases f with
  | const | literal | field =>
    cases inlined
    rfl
  | slot i =>
    obtain ⟨v, held, made⟩ := bind_eq_ok.mp inlined
    cases made
    simp only [operand, held]
    rfl
  -- what is no operand stays none, and the two are refused alike
  | compare | textTest | join =>
    obtain ⟨l, left, rest⟩ := bind_eq_ok.mp inlined
    obtain ⟨r, right, made⟩ := bind_eq_ok.mp rest
    cases made
    rfl
  | not =>
    obtain ⟨g, below, made⟩ := bind_eq_ok.mp inlined
    cases made
    rfl

theorem bind_inline (schema : Schema α) (record : Placeholder) {f g : Formula}
    (placed : f.SlotsAreOperands) (inlined : f.inline slots = .ok g) :
    g.bind schema record [] = f.bind schema record slots := by
  induction f generalizing g with
  | const | field =>
    cases inlined
    rfl
  | literal v =>
    cases inlined
    cases v <;> rfl
  | slot => exact placed.elim
  | compare | textTest =>
    obtain ⟨l, left, rest⟩ := bind_eq_ok.mp inlined
    obtain ⟨r, right, made⟩ := bind_eq_ok.mp rest
    cases made
    simp only [bind, operand_inline schema record left, operand_inline schema record right]
  | join _ _ _ ihl ihr =>
    obtain ⟨l, left, rest⟩ := bind_eq_ok.mp inlined
    obtain ⟨r, right, made⟩ := bind_eq_ok.mp rest
    cases made
    simp only [bind, ihl placed.1 left, ihr placed.2 right]
  | not _ ih =>
    obtain ⟨g, below, made⟩ := bind_eq_ok.mp inlined
    cases made
    simp only [bind, ih placed below]

end Formula

theorem Filter.bind_toLambda (schema : Schema α) {f : Filter} {l : Lambda}
    (placed : f.lambda.body.SlotsAreOperands) (inlined : f.toLambda = .ok l) :
    l.bind schema = f.bind schema := by
  obtain ⟨g, body, made⟩ := bind_eq_ok.mp inlined
  cases made
  exact Formula.bind_inline schema f.lambda.record placed body

/-- A filter that binds becomes a lambda that binds and says the same of every record. A filter that
becomes a lambda at all, and whose slots stand where values can, binds where the lambda does and
fails where it does, for the same reason. -/
theorem inlined_filter_alike (f : Filter) (schema : Schema α) :
    (∀ t, f.bind schema = .ok t → ∃ l, f.toLambda = .ok l ∧ l.bind schema = .ok t) ∧
    (f.lambda.body.SlotsAreOperands → ∀ l, f.toLambda = .ok l →
      ∀ e, f.bind schema = .error e ↔ l.bind schema = .error e) := by
  constructor
  · intro t bound
    obtain ⟨placed, held⟩ := Formula.slots_of_bind bound
    obtain ⟨g, inlined, -⟩ := f.lambda.body.inline_ok held
    have made : f.toLambda = .ok ⟨f.lambda.record, g⟩ := bind_eq_ok.mpr ⟨g, inlined, rfl⟩
    exact ⟨_, made, (Filter.bind_toLambda schema placed made).trans bound⟩
  · intro placed l inlined e
    rw [Filter.bind_toLambda schema placed inlined]

/-- A test of the age beside the second of two slots, the first of which is empty. -/
def ageBeside (v : Value) : Filter :=
  ⟨⟨⟨0⟩, .compare (.field ⟨0⟩ "age") .eq (.slot 1)⟩, [none, some v]⟩

/-- A slot that holds null makes a null check, put in or looked up; a text beside an age is refused
either way. -/
theorem inlined_filter_alike_ages :
    (∃ l t, (ageBeside .null).toLambda = .ok l ∧ (ageBeside .null).bind ageSchema = .ok t ∧
      l.bind ageSchema = .ok t ∧ t none = .yes ∧ t (some 30) = .no) ∧
    ∃ l, (ageBeside (.text "old")).toLambda = .ok l ∧
      l.bind ageSchema = .error (.typeMismatch "age" .i64 "string") := by
  have bound : (ageBeside .null).bind ageSchema =
      .ok fun age => nullTruth false (age.map Value.ofInt |>.filter fun v => !v.isNull) := rfl
  have placed : (ageBeside (.text "old")).lambda.body.SlotsAreOperands :=
    ⟨.inr trivial, .inl ⟨1, rfl⟩⟩
  constructor
  · obtain ⟨l, inlined, same⟩ := (inlined_filter_alike (ageBeside .null) ageSchema).1 _ bound
    exact ⟨l, _, inlined, bound, same, rfl, rfl⟩
  · have alike := (inlined_filter_alike (ageBeside (.text "old")) ageSchema).2 placed _ rfl
    exact ⟨_, rfl, (alike _).mp rfl⟩

/-- A slot in the place of a test is refused, but the truth value that it holds is not. -/
example : ∃ l, (Filter.mk ⟨⟨0⟩, .slot 0⟩ [some (.bool true)]).toLambda = .ok l ∧
    (Filter.mk ⟨⟨0⟩, .slot 0⟩ [some (.bool true)]).bind ageSchema = .error .bareValue ∧
    l.bind ageSchema = .ok fun _ => .yes := ⟨_, rfl, rfl, rfl⟩

end RecordQuery
