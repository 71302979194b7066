import RecordQuery.Proofs.Binding

/-! The slots of a compiled condition tree. The tests that its formula is joined from are those of
the nodes in preorder, and each node's test alone mentions the slot of its number. -/
namespace RecordQuery

namespace Formula

/-- The slots mentioned, from left to right. -/
def slotIndices : Formula → List Nat
  | slot index => [index]
  | compare l _ r | textTest _ _ l r | join _ l r => l.slotIndices ++ r.slotIndices
  | not inner => inner.slotIndices
  | _ => []

/-- What a formula is joined from, from left to right. -/
def tests : Formula → List Formula
  | join _ l r => l.tests ++ r.tests
  | f => [f]

/-- A test of one field of a record: beside the value of a slot, or for null. -/
inductive TestOf (record : Placeholder) (path : String) : Option Nat → Formula → Prop where
  | compare (comparison : Comparison) (index : Nat) :
      TestOf record path (some index) (compare (field record path) comparison (slot index))
  | textTest (test : TextTest) (negated : Bool) (index : Nat) :
      TestOf record path (some index) (textTest test negated (field record path) (slot index))
  | isNull : TestOf record path none (.compare (field record path) .eq (literal .null))
  | isNotNull : TestOf record path none (.compare (field record path) .ne (literal .null))

theorem slotIndices_tests (f : Formula) : f.tests.flatMap slotIndices = f.slotIndices := by
  induction f with
  | join logic l r ihl ihr => rw [tests, List.flatMap_append, ihl, ihr, slotIndices]
  | _ => exact List.flatMap_singleton _ _

theorem placeholders_tests (f : Formula) : f.tests.flatMap placeholders = f.placeholders := by
  induction f with
  | join logic l r ihl ihr => rw [tests, List.flatMap_append, ihl, ihr, placeholders]
  | _ => exact List.flatMap_singleton _ _

section

variable {record : Placeholder} {path : String} {used : Option Nat} {f : Formula}

theorem TestOf.slotIndices (test : TestOf record path used f) : f.slotIndices = used.toList := by
  cases test <;> rfl

theorem TestOf.placeholders (test : TestOf record path used f) : f.placeholders = [record] := by
  cases test <;> rfl

theorem TestOf.tests (test : TestOf record path used f) : f.tests = [f] := by
  cases test <;> rfl

end

theorem testOf_ofOperator (record : Placeholder) (path : String) (op : Operator) (index : Nat) :
    TestOf record path (if op.takesValue then some index else none)
      (ofOperator record path op index) := by
  cases op <;> constructor

theorem tests_foldl_join (logic : Logic) (f : Formula) (fs : List Formula) :
    (fs.foldl (join logic) f).tests = f.tests ++ fs.flatMap tests := by
  induction fs generalizing f with
  | nil => simp
  | cons g gs ih => rw [List.foldl_cons, ih, tests, List.flatMap_cons, List.append_assoc]

/-- Inlining succeeds where every slot that is mentioned holds a value, and leaves no slot. -/
theorem inline_ok {slots : List (Option Value)} (f : Formula)
    (held : ∀ i ∈ f.slotIndices, ∃ v, slots[i]? = some (some v)) :
    ∃ g, f.inline slots = .ok g ∧ g.slotIndices = [] := by
  induction f with
  | const | literal | field => exact ⟨_, rfl, rfl⟩
  | slot index =>
    obtain ⟨v, here⟩ := held index List.mem_cons_self
    refine ⟨literal v, ?_, rfl⟩
    rw [inline, slotValue, here]
    rfl
  | compare l _ r ihl ihr | textTest _ _ l r ihl ihr | join _ l r ihl ihr =>
    obtain ⟨heldl, heldr⟩ := List.forall_mem_append.mp held
    obtain ⟨l', left, closedl⟩ := ihl heldl
    obtain ⟨r', right, closedr⟩ := ihr heldr
    refine ⟨_, bind_eq_ok.mpr ⟨l', left, bind_eq_ok.mpr ⟨r', right, rfl⟩⟩, ?_⟩
    simp only [slotIndices, closedl, closedr, List.append_nil]
  | not inner ih =>
    obtain ⟨g, below, closed⟩ := ih held
    exact ⟨not g, bind_eq_ok.mpr ⟨g, below, rfl⟩, closed⟩

end Formula

namespace Condition

def takesValue (c : Condition) : Bool := (Operator.ofSymbol? c.operator).any Operator.takesValue

theorem takesValue_of_wellFormed {c : Condition} (formed : c.WellFormed) :
    c.takesValue = c.op.takesValue := by
  rw [takesValue, (op_of_wellFormed formed).1, Option.any_some]

def numberedTest (record : Placeholder) (p : Condition × Nat) : Formula :=
  .ofOperator record p.1.field p.1.op p.2

mutual

/-- The formula of a tree is joined from the tests of its nodes in preorder. -/
theorem tests_formula (record : Placeholder) (seen : Nat) : ∀ c : Condition,
    (∀ n ∈ c.nodes, n.WellFormed) →
      (c.formula record seen).tests = (c.nodes.zipIdx seen).map (numberedTest record)
  | node field operator value logic [], _ =>
    (Formula.testOf_ofOperator record field _ seen).tests
  | node field operator value keyword (c :: cs), formed => by
    obtain ⟨logic, (named : keyword.bind Logic.ofKeyword? = some logic)⟩ :=
      logic_of_wellFormed (formed _ List.mem_cons_self) (List.cons_ne_nil c cs)
    have below := tests_formulas record (seen + 1) (c :: cs)
      fun n here => formed n (List.mem_cons_of_mem _ here)
    rw [formulas, List.flatMap_cons] at below
    -- the children's formulas hang together from the left, which their tests in a row do not show
    rw [formula_join named, Formula.tests, Formula.tests_foldl_join, below, nodes,
      List.zipIdx_cons, List.map_cons, (Formula.testOf_ofOperator record field _ seen).tests]
    rfl

theorem tests_formulas (record : Placeholder) (seen : Nat) : ∀ cs : List Condition,
    (∀ n ∈ nodesAll cs, n.WellFormed) →
      (formulas record seen cs).flatMap Formula.tests =
        ((nodesAll cs).zipIdx seen).map (numberedTest record)
  | [], _ => rfl
  | c :: cs, formed => by
    obtain ⟨first, others⟩ := List.forall_mem_append.mp formed
    rw [formulas, List.flatMap_cons, tests_formula record seen c first,
      tests_formulas record (seen + c.nodes.length) cs others, nodesAll, List.zipIdx_append,
      List.map_append]

end

/-- Of numbered elements the numbers of those that are taken occur once, and no other numbers. -/
theorem count_numbers (taken : β → Bool) (xs : List β) (seen j : Nat) :
    ((xs.zipIdx seen).flatMap fun p => (if taken p.1 then some p.2 else none).toList).count j =
      if seen ≤ j ∧ xs[j - seen]?.any taken = true then 1 else 0 := by
  induction xs generalizing seen with
  | nil => simp
  | cons x xs ih =>
    rw [List.zipIdx_cons, List.flatMap_cons, List.count_append, ih]
    rcases Nat.lt_trichotomy seen j with after | rfl | before
    · have further : j - seen = (j - (seen + 1)) + 1 := by omega
      have other : seen ≠ j := by omega
      have reached : seen + 1 ≤ j := after
      rw [further, List.getElem?_cons_succ]
      cases taken x <;> simp [other, reached, after.le]
    · have later : ¬ seen + 1 ≤ seen := by omega
      rw [Nat.sub_self, List.getElem?_cons_zero]
      cases here : taken x <;> simp [later, here]
    · have other : seen ≠ j := by omega
      have ahead : ¬ seen ≤ j := by omega
      have further : ¬ seen + 1 ≤ j := by omega
      cases taken x <;> simp [other, ahead, further]

/-- The slot of a node holds its value if its operator takes one, and else nothing. -/
theorem operand_exact {c : Condition} (formed : c.WellFormed) :
    if c.takesValue then ∃ v, c.value = some v ∧ v ≠ .null ∧ c.operand? = some v
    else c.operand? = none := by
  rw [takesValue_of_wellFormed formed]
  by_cases takes : c.op.takesValue = true
  · rw [if_pos takes]
    obtain ⟨v, found, real⟩ := operand_of_takesValue formed takes
    have held := (Option.filter_eq_some_iff.mp found).1
    exact ⟨v, held, fun null => by simp [null, Value.isNull] at real, found⟩
  · rw [if_neg takes]
    have given := (op_of_wellFormed formed).2
    rw [← operand?_isSome, iff_false_left takes] at given
    exact Option.not_isSome_iff_eq_none.mp given

theorem kindFault_cases {kind : FieldKind} {c : Condition} {e : BindError}
    (fault : c.kindFault kind = some e) :
    ∃ path expected got, e = .typeMismatch path expected got := by
  unfold kindFault at fault
  cases kindOf : c.op.kind with
  | compare =>
    rw [kindOf] at fault
    obtain ⟨v, -, refused⟩ := Option.bind_eq_some_iff.mp fault
    exact ⟨_, _, _, (Option.some.inj (Option.ite_none_left_eq_some.mp refused).2).symm⟩
  | nullCheck =>
    rw [kindOf] at fault
    cases fault
  | textTest =>
    rw [kindOf] at fault
    exact ⟨_, _, _, (Option.some.inj (Option.ite_none_left_eq_some.mp fault).2).symm⟩

theorem schemaFault_cases {schema : Schema α} {c : Condition} {e : BindError}
    (fault : c.schemaFault schema = some e) :
    (∃ path, e = .unknownField path) ∨
      ∃ path expected got, e = .typeMismatch path expected got := by
  unfold schemaFault at fault
  cases known : schema c.field with
  | none =>
    rw [known] at fault
    exact .inl ⟨_, (Option.some.inj fault).symm⟩
  | some f =>
    rw [known] at fault
    obtain ⟨kind, -, unfit⟩ := Option.bind_eq_some_iff.mp fault
    exact .inr (kindFault_cases unfit)

end Condition

section

variable {root : Condition} {record : Placeholder}

theorem filter_tests (formed : ∀ n ∈ root.nodes, n.WellFormed) :
    (root.filter record).lambda.body.tests =
      root.nodes.zipIdx.map (Condition.numberedTest record) :=
  Condition.tests_formula record 0 root formed

theorem filter_slotIndices (formed : ∀ n ∈ root.nodes, n.WellFormed) (i : Nat) :
    (root.filter record).lambda.body.slotIndices.count i =
      if root.nodes[i]?.any Condition.takesValue then 1 else 0 := by
  have uses : ∀ p ∈ root.nodes.zipIdx, (Condition.numberedTest record p).slotIndices =
      (if p.1.takesValue then some p.2 else none).toList := by
    intro p member
    rw [Condition.takesValue_of_wellFormed (formed _ (List.fst_mem_of_mem_zipIdx member))]
    exact (Formula.testOf_ofOperator _ _ _ _).slotIndices
  rw [← Formula.slotIndices_tests, filter_tests formed, List.flatMap_map,
    List.flatMap_congr uses, Condition.count_numbers]
  simp

theorem filter_placeholders (formed : ∀ n ∈ root.nodes, n.WellFormed) :
    ∀ p ∈ (root.filter record).lambda.body.placeholders, p = record := by
  intro p member
  rw [← Formula.placeholders_tests, filter_tests formed, List.flatMap_map] at member
  obtain ⟨numbered, -, mentioned⟩ := List.mem_flatMap.mp member
  have alone := (Formula.testOf_ofOperator record numbered.1.field numbered.1.op numbered.2)
  rw [Condition.numberedTest, alone.placeholders] at mentioned
  exact List.mem_singleton.mp mentioned

theorem filter_slots_getElem? (root : Condition) (record : Placeholder) (i : Nat) :
    (root.filter record).slots[i]? = root.nodes[i]?.map Condition.operand? :=
  List.getElem?_map

theorem filter_slots_held (formed : ∀ n ∈ root.nodes, n.WellFormed) :
    ∀ i ∈ (root.filter record).lambda.body.slotIndices,
      ∃ v, (root.filter record).slots[i]? = some (some v) := by
  intro i mentioned
  have once := List.count_pos_iff.mpr mentioned
  rw [filter_slotIndices formed] at once
  have taken : root.nodes[i]?.any Condition.takesValue = true := by
    by_contra unused
    rw [if_neg unused] at once
    exact Nat.lt_irrefl 0 once
  obtain ⟨c, here, takes⟩ := (Option.any_eq_true _ _).mp taken
  have exact := Condition.operand_exact (formed c (List.mem_of_getElem? here))
  rw [if_pos takes] at exact
  obtain ⟨v, -, -, found⟩ := exact
  exact ⟨v, by rw [filter_slots_getElem?, here, Option.map_some, found]⟩

end

/-- What compiling a tree gives: a slot for every node, which holds the node's value if its operator
takes one; a test for every node, which alone mentions the slot of its node; and no placeholder but
that of the lambda. So inlining the slots succeeds and leaves none, and where binding fails it is
not for a slot, a placeholder or the form of the formula. -/
theorem compiled_slots_exact {limits : Limits} {record : Placeholder} {root : Condition}
    {f : Filter} (compiled : Filter.ofCondition limits record root = .ok f) :
    f.slots.length = root.nodes.length ∧
    f.lambda.body.tests.length = root.nodes.length ∧
    (∀ i c, root.nodes[i]? = some c →
      (if c.takesValue then ∃ v, c.value = some v ∧ v ≠ .null ∧ f.slots[i]? = some (some v)
        else f.slots[i]? = some none) ∧
      ∃ t, f.lambda.body.tests[i]? = some t ∧
        Formula.TestOf f.lambda.record c.field (if c.takesValue then some i else none) t) ∧
    (∀ i, f.lambda.body.slotIndices.count i =
      if root.nodes[i]?.any Condition.takesValue then 1 else 0) ∧
    (∀ p ∈ f.lambda.body.placeholders, p = f.lambda.record) ∧
    (∃ l, f.toLambda = .ok l ∧ l.body.slotIndices = []) ∧
    ∀ (α : Type) (schema : Schema α) (e : BindError), f.bind schema = .error e →
      (∀ i, e ≠ .unknownSlot i) ∧ (∀ p q, e ≠ .unboundPlaceholder p q) ∧
        e ≠ .bareValue ∧ e ≠ .nestedOperand := by
  rw [Filter.ofCondition_eq] at compiled
  obtain ⟨sound, rfl⟩ := verdict_eq_ok.mp compiled
  have formed := ((Condition.tree_fault_eq_none limits root).mp sound).2.2
  refine ⟨root.slots_length, ?_, ?_, filter_slotIndices formed, filter_placeholders formed, ?_, ?_⟩
  · rw [filter_tests formed, List.length_map, List.length_zipIdx]
  · intro i c here
    have numbered : root.nodes.zipIdx[i]? = some (c, i) := by simp [here]
    have single := formed c (List.mem_of_getElem? here)
    refine ⟨?_, Condition.numberedTest record (c, i), ?_, ?_⟩
    · have exact := Condition.operand_exact single
      rw [filter_slots_getElem?, here, Option.map_some]
      simpa only [Option.some.injEq] using exact
    · rw [filter_tests formed, List.getElem?_map, numbered, Option.map_some]
    · rw [Condition.takesValue_of_wellFormed single]
      exact Formula.testOf_ofOperator record c.field c.op i
  · obtain ⟨g, inlined, closed⟩ := Formula.inline_ok _ (filter_slots_held formed)
    exact ⟨⟨record, g⟩, bind_eq_ok.mpr ⟨g, inlined, rfl⟩, closed⟩
  · intro α schema e failed
    rw [Filter.bind_eq formed] at failed
    obtain ⟨c, -, fault⟩ := List.exists_of_findSome?_eq_some (verdict_eq_error.mp failed)
    rcases Condition.schemaFault_cases fault with ⟨path, rfl⟩ | ⟨path, expected, got, rfl⟩
    · exact ⟨nofun, nofun, nofun, nofun⟩
    · exact ⟨nofun, nofun, nofun, nofun⟩

theorem compiled_slots_exact_nested :
    ∃ f, Filter.ofCondition .standard ⟨3⟩ nestedFilter = .ok f ∧
      f.slots.length = 3 ∧ f.slots[1]? = some none ∧
      f.lambda.body.slotIndices.count 1 = 0 ∧ f.lambda.body.slotIndices.count 2 = 1 ∧
      ∃ l, f.toLambda = .ok l ∧ l.body.slotIndices = [] := by
  have compiled : Filter.ofCondition .standard ⟨3⟩ nestedFilter =
      .ok (nestedFilter.filter ⟨3⟩) := rfl
  obtain ⟨long, -, node, count, -, inlined, -⟩ := compiled_slots_exact compiled
  exact ⟨_, compiled, long, (node 1 _ rfl).1, count 1, count 2, inlined⟩

end RecordQuery
