import Mathlib.Data.List.TakeWhile
import RecordQuery.Filter.OfCondition
import RecordQuery.Proofs.Preorder
import RecordQuery.Proofs.Verdict

/-! What can be wrong with the nodes of a condition tree, in the order in which it is looked for,
and the nodes that nothing is wrong with. -/
namespace RecordQuery

theorem dropWhile_isBlank (cs : List Char) :
    cs.dropWhile isBlank = [] ↔ cs.all isBlank = true := by
  rw [List.dropWhile_eq_nil_iff, List.all_eq_true]

/-- Nothing is left of a text without the blanks around it exactly if it is all blank. -/
theorem trimBlank_eq_nil (s : String) : trimBlank s.toList = [] ↔ isBlankText s = true := by
  rw [isBlankText, ← dropWhile_isBlank, trimBlank, List.reverse_eq_nil_iff, dropWhile_isBlank,
    List.all_reverse]
  constructor
  · intro rest
    by_contra kept
    -- what dropping blanks leaves starts with a character that is none
    have first := List.head_dropWhile_not isBlank kept
    have blank := List.all_eq_true.mp rest _ (List.head_mem kept)
    rw [first] at blank
    contradiction
  · intro h
    simp [h]

theorem Operator.ofSymbol?_symbol (op : Operator) : Operator.ofSymbol? op.symbol = some op := by
  cases op <;> decide

theorem Operator.ofSymbol?_eq_some {s : String} {op : Operator} :
    Operator.ofSymbol? s = some op ↔ op.symbol = s := by
  constructor
  · intro found
    have := List.find?_some found
    simpa using this
  · rintro rfl
    exact op.ofSymbol?_symbol

theorem Operator.ofSymbol?_eq_none {s : String} :
    Operator.ofSymbol? s = none ↔ s ∉ Operator.all.map Operator.symbol := by
  simp [Operator.ofSymbol?, List.find?_eq_none]

theorem Logic.ofKeyword?_eq_none {s : String} :
    Logic.ofKeyword? s = none ↔ s ≠ "and" ∧ s ≠ "or" := by
  unfold Logic.ofKeyword?
  split <;> simp_all

namespace Condition

def depthFault (limits : Limits) (depth : Nat) : Option RequestError :=
  if limits.maxDepth.toNat < depth then some (.tooDeep limits.maxDepth) else none

def countFault (limits : Limits) (count : Nat) : Option RequestError :=
  if limits.maxConditions.toNat < count then some (.tooManyConditions limits.maxConditions)
  else none

def fieldFault (c : Condition) : Option RequestError :=
  if trimBlank c.field.toList = [] then some .invalidField else none

def operatorFault (c : Condition) : Option RequestError :=
  if c.operator ∈ Operator.all.map Operator.symbol then none
  else some (.invalidOperator c.operator)

/-- The operators that take no value. -/
def nullChecks : List String := ["isNull", "isNotNull"]

def valueFault (c : Condition) : Option RequestError :=
  if c.operator ∈ nullChecks then
    if c.operand?.isSome then some (.unexpectedValue c.field c.operator) else none
  else if c.operand?.isNone then some (.missingValue c.field c.operator)
  else none

def logicFault (c : Condition) : Option RequestError :=
  if c.children = [] ∨ c.logic = some "and" ∨ c.logic = some "or" then none
  else some (.invalidLogic c.field c.logic)

/-- The first thing wrong with a node apart from its place. -/
def ownFault (c : Condition) : Option RequestError :=
  c.fieldFault.or <| c.operatorFault.or <| c.valueFault.or c.logicFault

/-- The first thing wrong with a node at that depth which is the node number `count` in preorder. -/
def faultAt (limits : Limits) (depth count : Nat) (c : Condition) : Option RequestError :=
  (depthFault limits depth).or <| (countFault limits count).or c.ownFault

/-- The first fault of any of the places, which are numbered on from `seen`. -/
def firstFault (limits : Limits) (seen : Nat) (places : List (Nat × Condition)) :
    Option RequestError :=
  (places.zipIdx (seen + 1)).findSome? fun p => p.1.2.faultAt limits p.1.1 p.2

/-- A node that nothing is wrong with apart from its place. -/
structure WellFormed (c : Condition) : Prop where
  field : trimBlank c.field.toList ≠ []
  operator : ∃ op : Operator, op.symbol = c.operator ∧
    (op.takesValue = true ↔ ∃ v, c.value = some v ∧ v ≠ .null)
  logic : c.children ≠ [] → c.logic = some "and" ∨ c.logic = some "or"

/-- The operator of a node that nothing is wrong with. -/
def op (c : Condition) : Operator := (Operator.ofSymbol? c.operator).getD .eq

/-- The logic that joins the children, if there are any. -/
def joint (c : Condition) : Option Logic :=
  if c.children.isEmpty then none else c.logic.bind Logic.ofKeyword?

theorem takesValue_iff (op : Operator) : op.takesValue = true ↔ op.symbol ∉ nullChecks := by
  cases op <;> decide

theorem checkValue_eq (c : Condition) (op : Operator) (named : op.symbol = c.operator) :
    c.checkValue op = verdict c.valueFault () := by
  have takes := takesValue_iff op
  rw [named] at takes
  unfold checkValue valueFault
  by_cases unary : c.operator ∈ nullChecks
  · have none : op.takesValue = false := by simpa [unary] using takes
    cases c.operand? <;> simp [none, unary]
  · have one : op.takesValue = true := takes.mpr unary
    cases c.operand? <;> simp [one, unary]

theorem childLogic_eq (c : Condition) : c.childLogic = verdict c.logicFault c.joint := by
  unfold childLogic joint logicFault
  by_cases leaf : c.children = []
  · simp [leaf]
  · cases word : c.logic with
    | none => simp [leaf]
    | some s =>
      by_cases isAnd : s = "and"
      · simp [leaf, isAnd, Logic.ofKeyword?]
      · by_cases isOr : s = "or"
        · simp [leaf, isOr, Logic.ofKeyword?]
        · have unknown := Logic.ofKeyword?_eq_none.mpr ⟨isAnd, isOr⟩
          simp [leaf, isAnd, isOr, unknown]

theorem operatorOf_eq (c : Condition) :
    operatorOf c.operator = verdict c.operatorFault c.op := by
  unfold operatorOf operatorFault op
  cases named : Operator.ofSymbol? c.operator with
  | none => rw [if_neg (Operator.ofSymbol?_eq_none.mp named), verdict_some]
  | some op =>
    have known : c.operator ∈ Operator.all.map Operator.symbol := by
      by_contra unknown
      rw [Operator.ofSymbol?_eq_none.mpr unknown] at named
      contradiction
    rw [if_pos known, verdict_none, Option.getD_some]

theorem op_symbol {c : Condition} (known : c.operatorFault = none) :
    c.op.symbol = c.operator := by
  unfold op
  cases named : Operator.ofSymbol? c.operator with
  | none => simp [operatorFault, Operator.ofSymbol?_eq_none.mp named] at known
  | some op => exact Operator.ofSymbol?_eq_some.mp named

/-- The checks of one node, in their order. -/
theorem check_eq (limits : Limits) (depth count : Nat) (c : Condition) :
    c.check limits depth count = verdict (c.faultAt limits depth count) (c.op, c.joint) := by
  have deep : limits.checkDepth depth = verdict (depthFault limits depth) () := by
    unfold Limits.checkDepth depthFault
    split <;> rfl
  have many : limits.checkConditions count = verdict (countFault limits count) () := by
    unfold Limits.checkConditions countFault
    split <;> rfl
  rw [check, deep, many]
  refine verdict_bind fun _ => verdict_bind fun _ => ?_
  rw [ownFault, fieldFault]
  simp only [trimBlank_eq_nil]
  refine verdict_guard fun _ => ?_
  rw [operatorOf_eq]
  refine verdict_bind fun known => ?_
  rw [checkValue_eq c c.op (op_symbol known)]
  refine verdict_bind fun _ => ?_
  rw [childLogic_eq]
  exact verdict_bind_pure _ _ _

theorem firstFault_cons (limits : Limits) (seen depth : Nat) (c : Condition)
    (places : List (Nat × Condition)) :
    firstFault limits seen ((depth, c) :: places) =
      (c.faultAt limits depth (seen + 1)).or (firstFault limits (seen + 1) places) := by
  simp only [firstFault, List.zipIdx_cons, List.findSome?_cons]
  cases c.faultAt limits depth (seen + 1) <;> rfl

theorem firstFault_append (limits : Limits) (seen : Nat) (ps qs : List (Nat × Condition)) :
    firstFault limits seen (ps ++ qs) =
      (firstFault limits seen ps).or (firstFault limits (seen + ps.length) qs) := by
  rw [firstFault, List.zipIdx_append, List.findSome?_append, Nat.add_right_comm]
  rfl

theorem operand?_isSome (c : Condition) :
    c.operand?.isSome = true ↔ ∃ v, c.value = some v ∧ v ≠ .null := by
  have null (v : Value) : v.isNull = false ↔ v ≠ .null := by
    cases v <;> simp [Value.isNull]
  cases h : c.value <;> simp [operand?, h, Option.filter, null]

theorem valueFault_eq_none (c : Condition) :
    c.valueFault = none ↔ (c.operator ∉ nullChecks ↔ ∃ v, c.value = some v ∧ v ≠ .null) := by
  rw [← operand?_isSome]
  unfold valueFault
  by_cases unary : c.operator ∈ nullChecks <;> cases c.operand? <;> simp [unary]

theorem ownFault_eq_none (c : Condition) : c.ownFault = none ↔ c.WellFormed := by
  have logic : c.logicFault = none ↔
      (c.children ≠ [] → c.logic = some "and" ∨ c.logic = some "or") := by
    simp [logicFault, imp_iff_not_or]
  simp only [ownFault, Option.or_eq_none_iff, valueFault_eq_none, logic]
  constructor
  · rintro ⟨field, operator, value, logic⟩
    have symbol := op_symbol operator
    refine ⟨by simpa [fieldFault] using field, ⟨c.op, symbol, ?_⟩, logic⟩
    rw [takesValue_iff, symbol, value]
  · rintro ⟨field, ⟨op, symbol, takes⟩, logic⟩
    refine ⟨by simpa [fieldFault] using field, ?_, ?_, logic⟩
    · have known : c.operator ∈ Operator.all.map Operator.symbol := by
        rw [← symbol]
        cases op <;> decide
      rw [operatorFault, if_pos known]
    · rw [← symbol, ← takesValue_iff, takes]

theorem faultAt_eq_none (limits : Limits) (depth count : Nat) (c : Condition) :
    c.faultAt limits depth count = none ↔
      depth ≤ limits.maxDepth.toNat ∧ count ≤ limits.maxConditions.toNat ∧ c.WellFormed := by
  simp [faultAt, depthFault, countFault, ownFault_eq_none]

/-- There is no fault exactly if no place is too deep, there are not too many places and every node
is well-formed. -/
theorem firstFault_eq_none (limits : Limits) (seen : Nat) (places : List (Nat × Condition)) :
    firstFault limits seen places = none ↔
      (∀ p ∈ places, p.1 ≤ limits.maxDepth.toNat) ∧
      (places = [] ∨ seen + places.length ≤ limits.maxConditions.toNat) ∧
      ∀ p ∈ places, p.2.WellFormed := by
  induction places generalizing seen with
  | nil => simp [firstFault]
  | cons p ps ih =>
    rw [firstFault_cons, Option.or_eq_none_iff, faultAt_eq_none, ih]
    simp only [List.forall_mem_cons, List.length_cons, reduceCtorEq, false_or]
    constructor
    · rintro ⟨⟨deep, count, formed⟩, deeper, counts, others⟩
      refine ⟨⟨deep, deeper⟩, ?_, formed, others⟩
      rcases counts with rfl | counts
      · exact count
      · omega
    · rintro ⟨⟨deep, deeper⟩, count, formed, others⟩
      exact ⟨⟨deep, by omega, formed⟩, deeper, .inr (by omega), others⟩

/-- A tree has no fault exactly if it is neither too deep nor too large and every node is
well-formed. -/
theorem tree_fault_eq_none (limits : Limits) (root : Condition) :
    firstFault limits 0 (root.places 1) = none ↔
      root.depth ≤ limits.maxDepth.toNat ∧ root.nodes.length ≤ limits.maxConditions.toNat ∧
      ∀ c ∈ root.nodes, c.WellFormed := by
  have formed : (∀ p ∈ root.places 1, p.2.WellFormed) ↔ ∀ c ∈ root.nodes, c.WellFormed := by
    rw [← places_nodes 1 root, List.forall_mem_map]
  rw [firstFault_eq_none, places_bounded, places_length, formed]
  simp only [places_ne_nil, false_or, Nat.zero_add, Nat.add_comm 1, Nat.add_le_add_iff_right]

end Condition

end RecordQuery
