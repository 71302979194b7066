import RecordQuery.Proofs.Binding

/-! De Morgan's laws of condition trees. The dual of a tree has every operator exchanged for its
opposite and every `and` for `or`; it is compiled and bound where the tree is, with the same values,
and says Kleene's negation of what the tree says. -/
namespace RecordQuery

namespace Truth

theorem negated_and (a b : Truth) : (a.and b).negated = a.negated.or b.negated := by
  cases a <;> cases b <;> rfl

theorem negated_or (a b : Truth) : (a.or b).negated = a.negated.and b.negated := by
  cases a <;> cases b <;> rfl

theorem negated_all (ts : List Truth) : (all ts).negated = any (ts.map negated) := by
  induction ts with
  | nil => rfl
  | cons t ts ih => rw [all_cons, negated_and, ih, List.map_cons, any_cons]

theorem negated_any (ts : List Truth) : (any ts).negated = all (ts.map negated) := by
  induction ts with
  | nil => rfl
  | cons t ts ih => rw [any_cons, negated_or, ih, List.map_cons, all_cons]

end Truth

namespace Logic

def dual : Logic → Logic
  | and => or
  | or => and

theorem combine_dual (logic : Logic) (ts : List Truth) :
    logic.dual.combine (ts.map Truth.negated) = (logic.combine ts).negated := by
  cases logic with
  | and => exact (Truth.negated_all ts).symm
  | or => exact (Truth.negated_any ts).symm

/-- The other one of the words for the two logics; any other text as it is. -/
def dualWord (word : String) : String :=
  match ofKeyword? word with
  | some logic => logic.dual.keyword
  | none => word

theorem ofKeyword?_dualWord (word : String) :
    ofKeyword? (dualWord word) = (ofKeyword? word).map dual := by
  unfold dualWord
  cases named : ofKeyword? word with
  | none => exact named
  | some logic => cases logic <;> rfl

end Logic

namespace Operator

/-- The operator that says the opposite; two tests of texts have none. -/
def dual : Operator → Operator
  | eq => neq
  | neq => eq
  | lt => gte
  | lte => gt
  | gt => lte
  | gte => lt
  | isNull => isNotNull
  | isNotNull => isNull
  | contains => doesNotContain
  | doesNotContain => contains
  | startsWith => startsWith
  | endsWith => endsWith

def HasDual (op : Operator) : Prop := op ≠ startsWith ∧ op ≠ endsWith

theorem takesValue_dual (op : Operator) : op.dual.takesValue = op.takesValue := by
  cases op <;> rfl

theorem truth_dual {op : Operator} (opposed : op.HasDual) (read given : Option Value) :
    op.dual.truth read given = (op.truth read given).negated := by
  cases op with
  | eq | neq | lt | lte | gt | gte =>
    cases ordered : orderOf read given with
    | none => simp [truth, dual, ordered, Truth.ofOption]
    | some order => cases order <;> simp [truth, dual, ordered, Truth.ofOption] <;> rfl
  | isNull | isNotNull => cases read <;> rfl
  | contains => rfl
  | doesNotContain =>
    cases tested : TextTest.contains.between read given with
    | none => simp [truth, dual, tested, Truth.ofOption]
    | some b => cases b <;> simp [truth, dual, tested, Truth.ofOption]
  | startsWith => exact absurd rfl opposed.1
  | endsWith => exact absurd rfl opposed.2

/-- The symbol of the opposite operator; any other text as it is. -/
def dualSymbol (symbol : String) : String :=
  match ofSymbol? symbol with
  | some op => op.dual.symbol
  | none => symbol

theorem ofSymbol?_dualSymbol (symbol : String) :
    ofSymbol? (dualSymbol symbol) = (ofSymbol? symbol).map dual := by
  unfold dualSymbol
  cases named : ofSymbol? symbol with
  | none => exact named
  | some op => exact ofSymbol?_symbol op.dual

end Operator

namespace Condition

mutual

def dual : Condition → Condition
  | node field operator value logic children =>
    node field (Operator.dualSymbol operator) value (logic.map Logic.dualWord) (duals children)

def duals : List Condition → List Condition
  | [] => []
  | c :: cs => c.dual :: duals cs

end

mutual

theorem nodes_dual : ∀ c : Condition, c.dual.nodes = c.nodes.map dual
  | node _ _ _ _ children => by
    rw [dual, nodes, nodes, nodesAll_duals children, List.map_cons, dual]

theorem nodesAll_duals : ∀ cs : List Condition, nodesAll (duals cs) = (nodesAll cs).map dual
  | [] => rfl
  | c :: cs => by
    rw [duals, nodesAll, nodesAll, nodes_dual c, nodesAll_duals cs, List.map_append]

end

mutual

theorem depth_dual : ∀ c : Condition, c.dual.depth = c.depth
  | node _ _ _ _ children => by rw [dual, depth, depth, depthAll_duals children]

theorem depthAll_duals : ∀ cs : List Condition, depthAll (duals cs) = depthAll cs
  | [] => rfl
  | c :: cs => by rw [duals, depthAll, depthAll, depth_dual c, depthAll_duals cs]

end

section

variable (c : Condition)

theorem field_dual : c.dual.field = c.field := by
  cases c
  rfl

theorem value_dual : c.dual.value = c.value := by
  cases c
  rfl

theorem operand?_dual : c.dual.operand? = c.operand? := by
  rw [operand?, value_dual, operand?]

theorem ofSymbol?_dual :
    Operator.ofSymbol? c.dual.operator = (Operator.ofSymbol? c.operator).map Operator.dual := by
  cases c
  exact Operator.ofSymbol?_dualSymbol _

theorem slots_dual : c.dual.slots = c.slots := by
  rw [slots, nodes_dual, List.map_map, slots]
  exact List.map_congr_left fun n _ => operand?_dual n

end

theorem wellFormed_dual {c : Condition} (formed : c.WellFormed) : c.dual.WellFormed := by
  obtain ⟨op, symbol, takes⟩ := formed.operator
  refine ⟨?_, ⟨op.dual, ?_, ?_⟩, ?_⟩
  · rw [field_dual]
    exact formed.field
  · rw [← Operator.ofSymbol?_eq_some, ofSymbol?_dual, Operator.ofSymbol?_eq_some.mpr symbol]
    rfl
  · rw [value_dual, Operator.takesValue_dual]
    exact takes
  · cases c with
    | node field operator value logic children =>
      intro inner
      have parent : children ≠ [] := by
        rintro rfl
        exact inner rfl
      rcases formed.logic parent with (word : logic = some "and") | (word : logic = some "or")
      · exact .inr (by rw [dual, Condition.logic, word]; rfl)
      · exact .inl (by rw [dual, Condition.logic, word]; rfl)

section

variable {α : Type} {schema : Schema α} {c : Condition}

theorem op_dual (formed : c.WellFormed) : c.dual.op = c.op.dual := by
  have named := (op_of_wellFormed formed).1
  rw [op, ofSymbol?_dual, named]
  rfl

theorem kindFault_dual (formed : c.WellFormed) (kind : FieldKind) :
    c.dual.kindFault kind = c.kindFault kind := by
  unfold kindFault
  rw [op_dual formed, operand?_dual, field_dual]
  cases c.op <;> rfl

theorem schemaFault_dual (formed : c.WellFormed) :
    c.dual.schemaFault schema = c.schemaFault schema := by
  unfold schemaFault
  rw [field_dual]
  simp only [kindFault_dual formed]

/-- Whether the operator of a node has an opposite. -/
def Opposed (c : Condition) : Prop := c.operator ≠ "startsWith" ∧ c.operator ≠ "endsWith"

theorem op_hasDual (formed : c.WellFormed) (opposed : c.Opposed) : c.op.HasDual := by
  have symbol := Operator.ofSymbol?_eq_some.mp (op_of_wellFormed formed).1
  constructor
  · intro starts
    exact opposed.1 (by rw [← symbol, starts]; rfl)
  · intro ends
    exact opposed.2 (by rw [← symbol, ends]; rfl)

theorem ownTruth_dual (schema : Schema α) (formed : c.WellFormed) (opposed : c.Opposed) (x : α) :
    c.dual.ownTruth schema x = (c.ownTruth schema x).negated := by
  unfold ownTruth
  rw [ofSymbol?_dual, (op_of_wellFormed formed).1, field_dual, operand?_dual]
  exact Operator.truth_dual (op_hasDual formed opposed) _ _

end

mutual

theorem meaning_dual (schema : Schema α) (x : α) : ∀ c : Condition,
    (∀ n ∈ c.nodes, n.WellFormed) → (∀ n ∈ c.nodes, n.Opposed) →
      c.dual.meaning schema x = (c.meaning schema x).negated
  | node _ _ _ _ [], formed, opposed =>
    ownTruth_dual schema (formed _ List.mem_cons_self) (opposed _ List.mem_cons_self) x
  | node field operator value keyword (c :: cs), formed, opposed => by
    have own := ownTruth_dual schema (formed _ List.mem_cons_self)
      (opposed _ List.mem_cons_self) x
    have below := meanings_duals schema x (c :: cs)
      (fun n here => formed n (List.mem_cons_of_mem _ here))
      fun n here => opposed n (List.mem_cons_of_mem _ here)
    obtain ⟨logic, (named : keyword.bind Logic.ofKeyword? = some logic)⟩ :=
      logic_of_wellFormed (formed _ List.mem_cons_self) (List.cons_ne_nil c cs)
    have exchanged : (keyword.map Logic.dualWord).bind Logic.ofKeyword? = some logic.dual := by
      cases keyword with
      | none => cases named
      | some word =>
        have word : Logic.ofKeyword? word = some logic := named
        simp [Logic.ofKeyword?_dualWord, word]
    rw [duals, meanings, meanings] at below
    rw [dual, duals] at own ⊢
    rw [meaning_join exchanged, meaning_join named, own, below, ← Logic.combine_dual]
    rfl

theorem meanings_duals (schema : Schema α) (x : α) : ∀ cs : List Condition,
    (∀ n ∈ nodesAll cs, n.WellFormed) → (∀ n ∈ nodesAll cs, n.Opposed) →
      meanings schema x (duals cs) = (meanings schema x cs).map Truth.negated
  | [], _, _ => rfl
  | c :: cs, formed, opposed => by
    obtain ⟨first, others⟩ := List.forall_mem_append.mp formed
    obtain ⟨head, tail⟩ := List.forall_mem_append.mp opposed
    rw [duals, meanings, meanings, List.map_cons, meaning_dual schema x c first head,
      meanings_duals schema x cs others tail]

end

end Condition

/-- The dual of a tree without operators that have no opposite compiles where the tree does, to the
same values, and binds where it does, or else fails alike. It then says Kleene's negation of what
the tree says. -/
theorem dual_filter_negates {limits : Limits} {record : Placeholder} {root : Condition}
    {f : Filter} (compiled : Filter.ofCondition limits record root = .ok f)
    (opposed : ∀ c ∈ root.nodes, c.operator ≠ "startsWith" ∧ c.operator ≠ "endsWith") :
    ∃ g, Filter.ofCondition limits record root.dual = .ok g ∧ g.slots = f.slots ∧
      ∀ (α : Type) (schema : Schema α),
        g.bind schema = (f.bind schema).map fun test x => (test x).negated := by
  rw [Filter.ofCondition_eq] at compiled
  obtain ⟨sound, rfl⟩ := verdict_eq_ok.mp compiled
  obtain ⟨depth, count, formed⟩ := (Condition.tree_fault_eq_none limits root).mp sound
  have formedDual : ∀ n ∈ root.dual.nodes, n.WellFormed := by
    rw [Condition.nodes_dual, List.forall_mem_map]
    exact fun n member => Condition.wellFormed_dual (formed n member)
  have soundDual : Condition.firstFault limits 0 (root.dual.places 1) = none := by
    rw [Condition.tree_fault_eq_none, Condition.depth_dual]
    refine ⟨depth, ?_, formedDual⟩
    rw [Condition.nodes_dual, List.length_map]
    exact count
  refine ⟨root.dual.filter record, ?_, root.slots_dual, ?_⟩
  · rw [Filter.ofCondition_eq, soundDual, verdict_none]
  · intro α schema
    have faults : root.dual.nodes.findSome? (Condition.schemaFault schema) =
        root.nodes.findSome? (Condition.schemaFault schema) := by
      have same : ∀ n ∈ root.nodes,
          (Condition.schemaFault schema ∘ Condition.dual) n = Condition.schemaFault schema n :=
        fun n member => Condition.schemaFault_dual (formed n member)
      rw [Condition.nodes_dual, List.findSome?_map, ← List.head?_filterMap,
        List.filterMap_congr same, List.head?_filterMap]
    rw [Filter.bind_eq formedDual, Filter.bind_eq formed, faults]
    cases root.nodes.findSome? (Condition.schemaFault schema) with
    | some e => rfl
    | none =>
      simp only [Condition.meaning_dual schema _ root formed opposed]
      rfl

/-- Not yet of age, and of a name that is known or has no A in it. -/
def youngAndNamed : Condition :=
  .node "age" "lt" (some (.ofInt 18)) (some "and")
    [.node "name" "isNotNull" none (some "or")
      [.node "name" "doesNotContain" (some (.text "A")) none []]]

def youngTruth (person : String × Option Int) : Truth :=
  match (youngAndNamed.filter ⟨0⟩).bind personSchema with
  | .ok test => test person
  | .error _ => .unknown

theorem dual_filter_negates_young :
    ∃ f g s t, Filter.ofCondition .standard ⟨0⟩ youngAndNamed = .ok f ∧
      Filter.ofCondition .standard ⟨0⟩ youngAndNamed.dual = .ok g ∧ g.slots = f.slots ∧
      f.bind personSchema = .ok s ∧ g.bind personSchema = .ok t ∧
      s ("Ann", some 17) = .yes ∧ t ("Ann", some 17) = .no ∧ t ("Ann", none) = .unknown := by
  have compiled : Filter.ofCondition .standard ⟨0⟩ youngAndNamed =
      .ok (youngAndNamed.filter ⟨0⟩) := rfl
  have opposed : ∀ c ∈ youngAndNamed.nodes,
      c.operator ≠ "startsWith" ∧ c.operator ≠ "endsWith" := by
    simp [youngAndNamed, Condition.nodes, Condition.nodesAll, Condition.operator]
  obtain ⟨g, dual, slots, negates⟩ := dual_filter_negates compiled opposed
  have bound : (youngAndNamed.filter ⟨0⟩).bind personSchema =
      .ok youngTruth := rfl
  have boundDual := negates _ personSchema
  rw [bound] at boundDual
  exact ⟨_, g, _, _, compiled, dual, slots, bound, boundDual, rfl, rfl, rfl⟩

end RecordQuery
