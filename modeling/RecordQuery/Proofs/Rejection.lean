import RecordQuery.Proofs.Binding

/-! Which condition trees a schema rejects, and for what: the first node in preorder decides that
asks for a field that is not there, or asks of a field what its kind does not allow. -/
namespace RecordQuery

namespace Condition

def comparisons : List String := ["eq", "neq", "lt", "lte", "gt", "gte"]

/-- A node that cannot be asked of a field of that kind, and the error for it. -/
inductive Mismatch (kind : FieldKind) (c : Condition) : BindError → Prop where
  | literal {v : Value} :
      c.operator ∈ comparisons → c.value = some v → kind.accepts v = false →
        Mismatch kind c (.typeMismatch c.field kind v.typeName)
  | text :
      c.operator ∈ textTests → kind ≠ .string →
        Mismatch kind c (.typeMismatch c.field .string "non-string field")

/-- A node that does not fit a schema, and the error for it. -/
inductive Unfit (schema : Schema α) (c : Condition) : BindError → Prop where
  | unknown : schema c.field = none → Unfit schema c (.unknownField c.field)
  | mismatch {f : Field α} {kind : FieldKind} {e : BindError} :
      schema c.field = some f → f.kind = some kind → c.Mismatch kind e → Unfit schema c e

section

variable {c : Condition} {e : BindError}

/-- The words for the three kinds of operators. -/
theorem operator_cases (formed : c.WellFormed) :
    (∃ comparison, c.op.kind = .compare comparison ∧ c.operator ∈ comparisons ∧
      c.operator ∉ textTests) ∨
    (∃ negated, c.op.kind = .nullCheck negated ∧ c.operator ∉ comparisons ∧
      c.operator ∉ textTests) ∨
    ∃ test negated, c.op.kind = .textTest test negated ∧ c.operator ∉ comparisons ∧
      c.operator ∈ textTests := by
  rw [← Operator.ofSymbol?_eq_some.mp (op_of_wellFormed formed).1]
  cases c.op with
  | eq | neq | lt | lte | gt | gte => exact .inl ⟨_, rfl, by decide, by decide⟩
  | isNull | isNotNull => exact .inr (.inl ⟨_, rfl, by decide, by decide⟩)
  | startsWith | endsWith | contains | doesNotContain =>
    exact .inr (.inr ⟨_, _, rfl, by decide, by decide⟩)

theorem value_of_compare {comparison : Comparison} (formed : c.WellFormed)
    (asks : c.op.kind = .compare comparison) : ∃ v, c.operand? = some v ∧ c.value = some v := by
  have takes : c.op.takesValue = true := by simp [Operator.takesValue, asks]
  obtain ⟨v, given, -⟩ := operand_of_takesValue formed takes
  exact ⟨v, given, (Option.filter_eq_some_iff.mp given).1⟩

theorem kindFault_eq_some {kind : FieldKind} (formed : c.WellFormed) :
    c.kindFault kind = some e ↔ c.Mismatch kind e := by
  unfold kindFault
  rcases operator_cases formed with ⟨comparison, asks, named, other⟩ |
    ⟨negated, asks, noComparison, noText⟩ | ⟨test, negated, asks, other, named⟩
  · obtain ⟨v, given, written⟩ := value_of_compare formed asks
    simp only [asks, given, Option.bind_some]
    constructor
    · intro fault
      cases fits : kind.accepts v <;> simp only [fits, if_true] at fault <;> cases fault
      exact .literal named written fits
    · intro mismatch
      cases mismatch with
      | literal _ held refused =>
        cases written.symm.trans held
        simp [refused]
      | text text => exact absurd text other
  · simp only [asks]
    constructor
    · exact nofun
    · intro mismatch
      cases mismatch with
      | literal named => exact absurd named noComparison
      | text named => exact absurd named noText
  · simp only [asks]
    constructor
    · intro fault
      by_cases string : kind = .string <;> simp only [string, if_true, if_false] at fault <;>
        cases fault
      exact .text named string
    · intro mismatch
      cases mismatch with
      | literal comparison => exact absurd comparison other
      | text _ notString => exact if_neg notString

theorem schemaFault_eq_some {schema : Schema α} (formed : c.WellFormed) :
    c.schemaFault schema = some e ↔ c.Unfit schema e := by
  unfold schemaFault
  constructor
  · intro fault
    cases known : schema c.field with
    | none =>
      rw [known] at fault
      cases fault
      exact .unknown known
    | some f =>
      rw [known] at fault
      obtain ⟨kind, declared, fault⟩ := Option.bind_eq_some_iff.mp fault
      exact .mismatch known declared ((kindFault_eq_some formed).mp fault)
  · intro unfit
    cases unfit with
    | unknown missing => rw [missing]
    | mismatch known declared mismatch =>
      rw [known]
      exact Option.bind_eq_some_iff.mpr ⟨_, declared, (kindFault_eq_some formed).mpr mismatch⟩

theorem schemaFault_eq_none {schema : Schema α} (formed : c.WellFormed) :
    c.schemaFault schema = none ↔ ∀ e, ¬ c.Unfit schema e := by
  simp only [← schemaFault_eq_some formed, Option.eq_none_iff_forall_ne_some, ne_eq]

end

end Condition

/-- A schema rejects the filter of a tree if a node of the tree does not fit it, and for no other
reason. The error is that of the first such node in preorder. -/
theorem rejection_exact {limits : Limits} {record : Placeholder} {root : Condition} {f : Filter}
    (compiled : Filter.ofCondition limits record root = .ok f) (schema : Schema α) :
    ((∃ e, f.bind schema = .error e) ↔ ∃ c ∈ root.nodes, ∃ e, c.Unfit schema e) ∧
    ∀ e, f.bind schema = .error e ↔
      ∃ before c after, root.nodes = before ++ c :: after ∧
        (∀ b ∈ before, ∀ e', ¬ b.Unfit schema e') ∧ c.Unfit schema e := by
  rw [Filter.ofCondition_eq] at compiled
  obtain ⟨sound, rfl⟩ := verdict_eq_ok.mp compiled
  have formed := ((Condition.tree_fault_eq_none limits root).mp sound).2.2
  simp only [Filter.bind_eq formed, verdict_eq_error]
  constructor
  · rw [← Option.isSome_iff_exists, List.findSome?_isSome_iff]
    constructor
    · rintro ⟨c, member, fault⟩
      obtain ⟨e, fault⟩ := Option.isSome_iff_exists.mp fault
      exact ⟨c, member, e, (Condition.schemaFault_eq_some (formed c member)).mp fault⟩
    · rintro ⟨c, member, e, unfit⟩
      have fault := (Condition.schemaFault_eq_some (formed c member)).mpr unfit
      exact ⟨c, member, Option.isSome_iff_exists.mpr ⟨e, fault⟩⟩
  · intro e
    rw [List.findSome?_eq_some_iff]
    constructor
    · rintro ⟨before, c, after, split, fault, none⟩
      rw [split, List.forall_mem_append, List.forall_mem_cons] at formed
      obtain ⟨first, here, -⟩ := formed
      refine ⟨before, c, after, split, ?_, (Condition.schemaFault_eq_some here).mp fault⟩
      exact fun b member => (Condition.schemaFault_eq_none (first b member)).mp (none b member)
    · rintro ⟨before, c, after, split, fit, unfit⟩
      rw [split, List.forall_mem_append, List.forall_mem_cons] at formed
      obtain ⟨first, here, -⟩ := formed
      refine ⟨before, c, after, split, (Condition.schemaFault_eq_some here).mpr unfit, ?_⟩
      exact fun b member => (Condition.schemaFault_eq_none (first b member)).mpr (fit b member)

/-- An adult, or one whose age has a digit in it and whose nickname, which is no field, is Al. -/
def ageAsText : Condition :=
  .node "age" "gte" (some (.ofInt 18)) (some "or")
    [.node "age" "contains" (some (.text "1")) (some "and")
      [.node "nickname" "eq" (some (.text "Al")) none []]]

theorem rejection_exact_people :
    ∃ f, Filter.ofCondition .standard ⟨0⟩ ageAsText = .ok f ∧
      f.bind personSchema = .error (.typeMismatch "age" .string "non-string field") := by
  have compiled : Filter.ofCondition .standard ⟨0⟩ ageAsText = .ok (ageAsText.filter ⟨0⟩) := rfl
  obtain ⟨-, rejected⟩ := rejection_exact compiled personSchema
  refine ⟨_, compiled, (rejected _).mpr ⟨[ageAsText], _, _, rfl, ?_, ?_⟩⟩
  · intro b member e unfit
    obtain rfl := List.mem_singleton.mp member
    cases unfit with
    | unknown missing => cases missing
    | mismatch known declared mismatch =>
      cases known
      cases declared
      cases mismatch with
      | literal _ held refused =>
        cases held
        cases refused
      | text named => exact absurd named (by decide)
  · exact .mismatch rfl rfl (.text (by decide) (by decide))

/-- Where a text is looked for in a field that holds none, the error does not name the field's
kind. -/
theorem kind_not_named :
    ¬ ∀ (β : Type) (schema : Schema β) (limits : Limits) (record : Placeholder) (root : Condition)
        (f : Filter) (e : BindError),
      Filter.ofCondition limits record root = .ok f → f.bind schema = .error e →
        ∃ c ∈ root.nodes, e = .unknownField c.field ∨
          ∃ g kind got, schema c.field = some g ∧ g.kind = some kind ∧
            e = .typeMismatch c.field kind got := by
  intro claimed
  obtain ⟨c, member, error⟩ := claimed _ personSchema .standard ⟨0⟩
    (.node "age" "contains" (some (.text "1")) none []) _ _ rfl rfl
  obtain rfl := List.mem_singleton.mp member
  rcases error with error | ⟨g, kind, got, known, declared, error⟩
  · cases error
  · cases known
    cases declared
    cases error

end RecordQuery
