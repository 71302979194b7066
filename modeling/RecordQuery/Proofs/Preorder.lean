import Mathlib.Data.List.Basic
import RecordQuery.Request

/-! The nodes of a condition tree in preorder, and their depths. -/
namespace RecordQuery.Condition

mutual

/-- The nodes in preorder. -/
def nodes : Condition → List Condition
  | node field operator value logic children =>
    node field operator value logic children :: nodesAll children

def nodesAll : List Condition → List Condition
  | [] => []
  | c :: cs => c.nodes ++ nodesAll cs

end

mutual

/-- The nodes in preorder, each with its depth; the first argument is the depth of the root. -/
def places (depth : Nat) : Condition → List (Nat × Condition)
  | node field operator value logic children =>
    (depth, node field operator value logic children) :: placesAll (depth + 1) children

def placesAll (depth : Nat) : List Condition → List (Nat × Condition)
  | [] => []
  | c :: cs => c.places depth ++ placesAll depth cs

end

mutual

/-- How many nodes there are on the longest way down. -/
def depth : Condition → Nat
  | node _ _ _ _ children => depthAll children + 1

def depthAll : List Condition → Nat
  | [] => 0
  | c :: cs => max c.depth (depthAll cs)

end

mutual

theorem places_nodes (depth : Nat) : ∀ c : Condition, (c.places depth).map (·.2) = c.nodes
  | node _ _ _ _ children => by simp [places, nodes, placesAll_nodes (depth + 1) children]

theorem placesAll_nodes (depth : Nat) : ∀ cs : List Condition,
    (placesAll depth cs).map (·.2) = nodesAll cs
  | [] => rfl
  | c :: cs => by simp [placesAll, nodesAll, places_nodes depth c, placesAll_nodes depth cs]

end

theorem places_length (depth : Nat) (c : Condition) : (c.places depth).length = c.nodes.length := by
  rw [← places_nodes depth c, List.length_map]

theorem places_ne_nil (depth : Nat) (c : Condition) : c.places depth ≠ [] := by
  cases c
  simp [places]

mutual

/-- No node is deeper than `max` exactly if the longest way down ends there. -/
theorem places_bounded (max depth : Nat) : ∀ c : Condition,
    (∀ p ∈ c.places depth, p.1 ≤ max) ↔ depth + c.depth ≤ max + 1
  | node _ _ _ _ children => by
    rw [places, List.forall_mem_cons, placesAll_bounded max (depth + 1) children,
      Condition.depth]
    cases children with
    | nil => simp [depthAll]
    | cons c cs =>
      simp only [reduceCtorEq, false_or]
      omega

theorem placesAll_bounded (max depth : Nat) : ∀ cs : List Condition,
    (∀ p ∈ placesAll depth cs, p.1 ≤ max) ↔ cs = [] ∨ depth + depthAll cs ≤ max + 1
  | [] => by simp [placesAll]
  | c :: cs => by
    rw [placesAll, List.forall_mem_append, places_bounded max depth c,
      placesAll_bounded max depth cs, depthAll]
    cases cs with
    | nil => simp [depthAll]
    | cons d ds =>
      simp only [reduceCtorEq, false_or]
      omega

end

end RecordQuery.Condition
