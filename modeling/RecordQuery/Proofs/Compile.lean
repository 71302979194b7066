import RecordQuery.Proofs.Checks

/-! What compiling makes of a condition tree. Every node is checked at its place, and where there is
no fault the formula and the slots are functions of the tree alone, whatever the limits. -/
namespace RecordQuery

namespace Condition

mutual

/-- The formula of a tree that nothing is wrong with, its nodes numbered from `seen` on. -/
def formula (record : Placeholder) (seen : Nat) : Condition → Formula
  | node field operator value logic children =>
    let c := node field operator value logic children
    (Formula.ofOperator record field c.op seen).joinAll c.joint
      (formulas record (seen + 1) children)

def formulas (record : Placeholder) (seen : Nat) : List Condition → List Formula
  | [] => []
  | c :: cs => c.formula record seen :: formulas record (seen + c.nodes.length) cs

end

/-- The values of the nodes in preorder. -/
def slots (c : Condition) : List (Option Value) := c.nodes.map operand?

def slotsAll (cs : List Condition) : List (Option Value) := (nodesAll cs).map operand?

theorem slots_length (c : Condition) : c.slots.length = c.nodes.length := by
  rw [slots, List.length_map]

mutual

/-- Compiling checks the nodes in preorder; what it gives does not hang on the limits. -/
theorem compile_eq (limits : Limits) (record : Placeholder) (depth seen : Nat) :
    ∀ c : Condition, c.compile limits record depth seen =
      verdict (firstFault limits seen (c.places depth)) (c.formula record seen, c.slots)
  | node field operator value logic children => by
    rw [compile, check_eq, places, firstFault_cons]
    refine verdict_bind fun _ => ?_
    simp only [compileAll_eq limits record (depth + 1) (seen + 1) children]
    exact verdict_bind_pure _ _ _

theorem compileAll_eq (limits : Limits) (record : Placeholder) (depth seen : Nat) :
    ∀ cs : List Condition, compileAll limits record depth seen cs =
      verdict (firstFault limits seen (placesAll depth cs)) (formulas record seen cs, slotsAll cs)
  | [] => rfl
  | c :: cs => by
    rw [compileAll, compile_eq limits record depth seen c, placesAll, firstFault_append]
    refine verdict_bind fun _ => ?_
    simp only [slots_length, places_length,
      compileAll_eq limits record depth (seen + c.nodes.length) cs]
    simp only [formulas, slotsAll, slots, nodesAll, List.map_append]
    exact verdict_bind_pure _ _ _

end

end Condition

namespace Formula

theorem ofOperator_replace (old new : Placeholder) (path : String) (op : Operator) (index : Nat) :
    (ofOperator old path op index).replace old new = ofOperator new path op index := by
  unfold ofOperator
  cases op.kind <;> simp [replace]

theorem foldl_join_replace (old new : Placeholder) (logic : Logic) (f : Formula)
    (fs : List Formula) :
    (fs.foldl (join logic) f).replace old new =
      (fs.map (replace old new)).foldl (join logic) (f.replace old new) := by
  induction fs generalizing f with
  | nil => rfl
  | cons g gs ih => simp [ih, replace]

theorem joinAll_replace (old new : Placeholder) (own : Formula) (logic : Option Logic)
    (fs : List Formula) :
    (own.joinAll logic fs).replace old new =
      (own.replace old new).joinAll logic (fs.map (replace old new)) := by
  cases fs with
  | nil => rfl
  | cons f fs =>
    cases logic with
    | none => rfl
    | some logic => simp [joinAll, replace, foldl_join_replace]

end Formula

namespace Condition

mutual

theorem formula_replace (old new : Placeholder) (seen : Nat) : ∀ c : Condition,
    (c.formula old seen).replace old new = c.formula new seen
  | node _ _ _ _ children => by
    rw [formula, formula, Formula.joinAll_replace, Formula.ofOperator_replace,
      formulas_replace old new (seen + 1) children]

theorem formulas_replace (old new : Placeholder) (seen : Nat) : ∀ cs : List Condition,
    (formulas old seen cs).map (Formula.replace old new) = formulas new seen cs
  | [] => rfl
  | c :: cs => by
    rw [formulas, formulas, List.map_cons, formula_replace old new seen c,
      formulas_replace old new (seen + c.nodes.length) cs]

end

end Condition

/-- The filter of a tree that nothing is wrong with. -/
def Condition.filter (record : Placeholder) (root : Condition) : Filter :=
  ⟨⟨record, root.formula record 0⟩, root.slots⟩

theorem Filter.ofCondition_eq (limits : Limits) (record : Placeholder) (root : Condition) :
    Filter.ofCondition limits record root =
      verdict (Condition.firstFault limits 0 (root.places 1)) (root.filter record) := by
  rw [Filter.ofCondition, Condition.compile_eq]
  exact verdict_bind_pure _ _ _

end RecordQuery
