import RecordQuery.Proofs.Admission
import RecordQuery.Proofs.Meaning

/-! Binding the formula that a condition tree compiles to. It fails with the first node in preorder
that does not fit the schema, and gives the meaning of the tree if there is none. -/
namespace RecordQuery

namespace Condition

/-- The operators that look at the digits of a number: those on text. -/
def textTests : List String := ["startsWith", "endsWith", "contains", "doesNotContain"]

/-- Why the test of a node does not fit a field of that kind. -/
def kindFault (kind : FieldKind) (c : Condition) : Option BindError :=
  match c.op.kind with
  | .compare _ =>
    c.operand?.bind fun v =>
      if kind.accepts v then none else some (.typeMismatch c.field kind v.typeName)
  | .nullCheck _ => none
  | .textTest _ _ =>
    if kind = .string then none else some (.typeMismatch c.field .string "non-string field")

/-- Why a node does not fit a schema. -/
def schemaFault (schema : Schema α) (c : Condition) : Option BindError :=
  match schema c.field with
  | none => some (.unknownField c.field)
  | some f => f.kind.bind fun kind => c.kindFault kind

theorem op_of_wellFormed {c : Condition} (formed : c.WellFormed) :
    Operator.ofSymbol? c.operator = some c.op ∧
      (c.op.takesValue = true ↔ ∃ v, c.value = some v ∧ v ≠ .null) := by
  obtain ⟨op, symbol, takes⟩ := formed.operator
  have named := Operator.ofSymbol?_eq_some.mpr symbol
  have same : c.op = op := by rw [Condition.op, named, Option.getD_some]
  rw [same]
  exact ⟨named, takes⟩

theorem operand_of_takesValue {c : Condition} (formed : c.WellFormed)
    (takes : c.op.takesValue = true) : ∃ v, c.operand? = some v ∧ v.isNull = false := by
  obtain ⟨v, given, real⟩ := (op_of_wellFormed formed).2.mp takes
  have notNull : v.isNull = false := by cases v <;> simp_all [Value.isNull]
  exact ⟨v, by simp [operand?, given, notNull], notNull⟩

end Condition

namespace Formula

variable {schema : Schema α} {record : Placeholder} {slots : List (Option Value)}

theorem operand_field (path : String) :
    (field record path).operand schema record slots =
      match schema path with
      | some f => .ok (.field path f)
      | none => .error (.unknownField path) := by
  cases found : schema path <;> simp [operand, found]

theorem operand_slot {index : Nat} {v : Value} (held : slots[index]? = some (some v)) :
    (slot index).operand schema record slots = .ok (.literal v) := by
  simp only [operand, slotValue, held]
  rfl

/-- A field against a value that is not null: the kind of the field must accept the value. -/
theorem bindComparison_literal {path : String} {f : Field α} {comparison : Comparison} {v : Value}
    (real : v.isNull = false) :
    bindComparison (.field path f) comparison (.literal v) =
      verdict (f.kind.bind fun kind =>
          if kind.accepts v then none else some (.typeMismatch path kind v.typeName))
        (fun x => compareTruth comparison (f.value? x) (some v)) := by
  simp only [bindComparison, Operand.isNullLiteral, real, Bool.and_false, Bool.false_eq_true,
    if_false, Operand.value?]
  cases kind : f.kind with
  | none => simp only [checkLiteral, kind]; rfl
  | some k =>
    cases fits : k.accepts v <;>
      simp only [checkLiteral, kind, Option.bind_some, fits, Bool.false_eq_true, if_true,
        if_false] <;>
      rfl

theorem bindComparison_null {path : String} {f : Field α} (negated : Bool) :
    bindComparison (.field path f) (if negated then .ne else .eq) (.literal .null) =
      .ok fun x => nullTruth negated (f.value? x) := by
  cases negated <;> rfl

/-- A field against a text argument: the field must not have a kind other than text. -/
theorem bindTextTest_literal {path : String} {f : Field α} {test : TextTest} {negated : Bool}
    {v : Value} (real : v.isNull = false) :
    bindTextTest test negated (.field path f) (.literal v) =
      verdict (f.kind.bind fun kind =>
          if kind = .string then none else some (.typeMismatch path .string "non-string field"))
        (fun x => textTruth test negated (f.value? x) (some v)) := by
  simp only [bindTextTest, Operand.value?, real, Bool.false_eq_true, if_false]
  cases kind : f.kind with
  | none => simp only [checkText, kind]; rfl
  | some k => cases k <;> simp only [checkText, kind] <;> rfl

theorem bind_ofOperator (schema : Schema α) (record : Placeholder) {c : Condition}
    (formed : c.WellFormed) {index : Nat} (held : slots[index]? = some c.operand?) :
    (ofOperator record c.field c.op index).bind schema record slots =
      verdict (c.schemaFault schema) (fun x => c.ownTruth schema x) := by
  have named := (Condition.op_of_wellFormed formed).1
  unfold ofOperator Condition.schemaFault Condition.ownTruth
  rw [named]
  cases found : schema c.field with
  | none =>
    cases c.op.kind <;> simp only [Formula.bind, operand_field, found] <;> rfl
  | some f =>
    cases kind : c.op.kind with
    | compare comparison =>
      have takes : c.op.takesValue = true := by simp [Operator.takesValue, kind]
      obtain ⟨v, given, real⟩ := Condition.operand_of_takesValue formed takes
      rw [given] at held
      simp only [Formula.bind, operand_field, found, operand_slot held, given,
        Operator.truth_compare kind]
      refine (bindComparison_literal real).trans ?_
      simp only [Condition.kindFault, kind, given, Option.bind_some]
    | nullCheck negated =>
      simp only [Formula.bind, operand_field, found, Operator.truth_nullCheck kind]
      refine (bindComparison_null negated).trans ?_
      cases f.kind <;> simp [Condition.kindFault, kind]
    | textTest test negated =>
      have takes : c.op.takesValue = true := by simp [Operator.takesValue, kind]
      obtain ⟨v, given, real⟩ := Condition.operand_of_takesValue formed takes
      rw [given] at held
      simp only [Formula.bind, operand_field, found, operand_slot held, given,
        Operator.truth_textTest kind]
      refine (bindTextTest_literal real).trans ?_
      simp only [Condition.kindFault, kind, Option.bind_some]

theorem bind_join (logic : Logic) {l r : Formula} {fault later : Option BindError}
    {s t : α → Truth} (left : l.bind schema record slots = verdict fault s)
    (right : r.bind schema record slots = verdict later t) :
    (join logic l r).bind schema record slots =
      verdict (fault.or later) (fun x => logic.truth (s x) (t x)) := by
  rw [Formula.bind, left]
  refine verdict_bind fun _ => ?_
  rw [right]
  exact verdict_bind_pure _ _ _

end Formula

/-- Of two lists in a row the second one starts where the first one ends. -/
theorem prefix_drop_append {first second whole : List β} {n : Nat}
    (held : first ++ second <+: whole.drop n) :
    first <+: whole.drop n ∧ second <+: whole.drop (n + first.length) := by
  obtain ⟨rest, found⟩ := held
  refine ⟨⟨second ++ rest, by rw [← found, List.append_assoc]⟩, rest, ?_⟩
  rw [← List.drop_drop, ← found, List.append_assoc, List.drop_left]

namespace Condition

variable {schema : Schema α} {record : Placeholder} {slots : List (Option Value)}

theorem logic_of_wellFormed {c : Condition} (formed : c.WellFormed) (inner : c.children ≠ []) :
    ∃ logic, c.logic.bind Logic.ofKeyword? = some logic := by
  rcases formed.logic inner with word | word
  · exact ⟨.and, by rw [word]; rfl⟩
  · exact ⟨.or, by rw [word]; rfl⟩

theorem formula_join {field operator : String} {value : Option Value} {keyword : Option String}
    {logic : Logic} (named : keyword.bind Logic.ofKeyword? = some logic) (seen : Nat)
    (c : Condition) (cs : List Condition) :
    (node field operator value keyword (c :: cs)).formula record seen =
      .join logic
        (.ofOperator record field (node field operator value keyword (c :: cs)).op seen)
        ((formulas record (seen + 1 + c.nodes.length) cs).foldl (.join logic)
          (c.formula record (seen + 1))) := by
  have joint : (node field operator value keyword (c :: cs)).joint = some logic := named
  rw [formula, joint, formulas]
  rfl

theorem slot_root {c : Condition} {seen : Nat} (held : c.slots <+: slots.drop seen) :
    slots[seen]? = some c.operand? := by
  obtain ⟨rest, found⟩ := held
  rw [← Nat.add_zero seen, ← List.getElem?_drop, ← found]
  cases c
  rfl

theorem slots_children {c : Condition} {seen : Nat} (held : c.slots <+: slots.drop seen) :
    slotsAll c.children <+: slots.drop (seen + 1) := by
  cases c with
  | node field operator value logic children =>
    have apart : [(node field operator value logic children).operand?] ++ slotsAll children <+:
        slots.drop seen := held
    exact (prefix_drop_append apart).2

mutual

/-- Binding the formula of a tree finds the first node that does not fit the schema, or gives the
meaning of the tree. -/
theorem bind_formula (seen : Nat) : ∀ c : Condition, (∀ n ∈ c.nodes, n.WellFormed) →
    c.slots <+: slots.drop seen →
      (c.formula record seen).bind schema record slots =
        verdict (c.nodes.findSome? (schemaFault schema)) (fun x => c.meaning schema x)
  | node field operator value logic [], formed, held => by
    have own := Formula.bind_ofOperator schema record (formed _ List.mem_cons_self) (slot_root held)
    simp only [nodes, nodesAll, List.findSome?_cons, List.findSome?_nil]
    refine own.trans ?_
    cases schemaFault schema (node field operator value logic []) <;> rfl
  | node field operator value keyword (c :: cs), formed, held => by
    have root := formed _ List.mem_cons_self
    have own := Formula.bind_ofOperator schema record root (slot_root held)
    obtain ⟨logic, (named : keyword.bind Logic.ofKeyword? = some logic)⟩ :=
      logic_of_wellFormed root (List.cons_ne_nil c cs)
    have below : slotsAll (c :: cs) <+: slots.drop (seen + 1) := slots_children held
    rw [slotsAll, nodesAll, List.map_append] at below
    obtain ⟨first, others⟩ := prefix_drop_append below
    rw [List.length_map] at others
    have head := bind_formula (seen + 1) c
      (fun n here => formed n (List.mem_cons_of_mem _ (List.mem_append_left _ here))) first
    -- the first child starts the chain that the others are joined to
    have chain := bind_formulas (seen + 1 + c.nodes.length) cs logic _ _ _
      (fun n here => formed n (List.mem_cons_of_mem _ (List.mem_append_right _ here))) others head
    rw [formula_join named, nodes, nodesAll, List.findSome?_cons, List.findSome?_append]
    refine (Formula.bind_join logic own chain).trans ?_
    simp only [meaning_join named, Logic.truth_foldl]
    cases schemaFault schema (node field operator value keyword (c :: cs)) <;> rfl

theorem bind_formulas (seen : Nat) : ∀ (cs : List Condition) (logic : Logic) (own : Formula)
    (fault : Option BindError) (t : α → Truth), (∀ n ∈ nodesAll cs, n.WellFormed) →
    slotsAll cs <+: slots.drop seen → own.bind schema record slots = verdict fault t →
      ((formulas record seen cs).foldl (Formula.join logic) own).bind schema record slots =
        verdict (fault.or ((nodesAll cs).findSome? (schemaFault schema)))
          (fun x => (meanings schema x cs).foldl logic.truth (t x))
  | [], _, _, _, _, _, _, bound => by simpa [formulas, meanings, nodesAll] using bound
  | c :: cs, logic, own, fault, t, formed, held, bound => by
    rw [slotsAll, nodesAll, List.map_append] at held
    obtain ⟨first, others⟩ := prefix_drop_append held
    rw [List.length_map] at others
    have head := bind_formula seen c (fun n here => formed n (List.mem_append_left _ here)) first
    have tail := bind_formulas (seen + c.nodes.length) cs logic _ _ _
      (fun n here => formed n (List.mem_append_right _ here)) others
      (Formula.bind_join logic bound head)
    rw [formulas, List.foldl_cons, tail, nodesAll, List.findSome?_append, Option.or_assoc]
    rfl

end

end Condition

theorem Filter.bind_eq {root : Condition} (formed : ∀ n ∈ root.nodes, n.WellFormed)
    (schema : Schema α) (record : Placeholder) :
    (root.filter record).bind schema =
      verdict (root.nodes.findSome? (Condition.schemaFault schema))
        (fun x => root.meaning schema x) :=
  Condition.bind_formula 0 root formed List.prefix_rfl

/-- A filter of three levels: an adult, or one of unknown age whose name starts with an A. -/
def nestedFilter : Condition :=
  .node "age" "gte" (some (.ofInt 18)) (some "or")
    [.node "age" "isNull" none (some "and")
      [.node "name" "startsWith" (some (.text "A")) none []]]

/-- Pairs of a name and perhaps an age. -/
def personSchema : Schema (String × Option Int)
  | "name" => some ⟨fun p => some (.text p.1), some .string⟩
  | "age" => some ⟨fun p => p.2.map .ofInt, some .i64⟩
  | _ => none

end RecordQuery
