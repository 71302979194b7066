import Mathlib.Logic.Relation
import RecordQuery.Proofs.Binding
import RecordQuery.Proofs.Word

/-! The order of the children of a node, and the grouping of those that their parent's logic joins.
Neither carries a meaning: a tree that is rearranged is compiled, is bound and says the same as
before, although its values move to other slots. -/
namespace RecordQuery

namespace Logic

variable (logic : Logic)

theorem combine_perm {ts us : List Truth} (moved : ts.Perm us) :
    logic.combine ts = logic.combine us := by
  cases logic <;> simp [combine, Truth.all, Truth.any, moved.mem_iff]

theorem truth_combine_nil (t : Truth) :
    logic.truth (logic.combine []) t = t ∧ logic.truth t (logic.combine []) = t := by
  cases logic <;> cases t <;> exact ⟨rfl, rfl⟩

theorem combine_append (ts us : List Truth) :
    logic.combine (ts ++ us) = logic.truth (logic.combine ts) (logic.combine us) := by
  induction ts with
  | nil => exact (logic.truth_combine_nil _).1.symm
  | cons t ts ih => simp only [List.cons_append, combine_cons, ih, truth_assoc]

/-- A group that the same logic joins can be taken apart. -/
theorem combine_nested (ts us vs : List Truth) :
    logic.combine (ts ++ logic.combine us :: vs) = logic.combine (ts ++ (us ++ vs)) := by
  simp only [combine_append, combine_cons]

end Logic

namespace Condition

theorem nodesAll_eq (cs : List Condition) : nodesAll cs = cs.flatMap nodes := by
  induction cs with
  | nil => rfl
  | cons c cs ih => simp [nodesAll, ih]

theorem meanings_eq (schema : Schema α) (x : α) (cs : List Condition) :
    meanings schema x cs = cs.map (meaning schema x) := by
  induction cs with
  | nil => rfl
  | cons c cs ih => simp [meanings, ih]

mutual

theorem depth_le_length : ∀ c : Condition, c.depth ≤ c.nodes.length
  | node _ _ _ _ children => by
    have below := depthAll_le_length children
    simp only [depth, nodes, List.length_cons]
    omega

theorem depthAll_le_length : ∀ cs : List Condition, depthAll cs ≤ (nodesAll cs).length
  | [] => Nat.le_refl 0
  | c :: cs => by
    have first := depth_le_length c
    have others := depthAll_le_length cs
    simp only [depthAll, nodesAll, List.length_append]
    omega

end

/-- The test of a node, without its children. -/
def alone : Condition → Condition
  | node field operator value _ _ => node field operator value none []

/-- The tests of all nodes, in preorder. -/
def tests (c : Condition) : List Condition := c.nodes.map alone

/-- Every node with children has one of the two words that can join them. -/
def Joined (c : Condition) : Prop :=
  ∀ n ∈ c.nodes, n.children ≠ [] → n.logic = some "and" ∨ n.logic = some "or"

theorem wellFormed_nodes (c : Condition) :
    (∀ n ∈ c.nodes, n.WellFormed) ↔ (∀ n ∈ c.tests, n.WellFormed) ∧ c.Joined := by
  have apart (n : Condition) : n.WellFormed ↔ n.alone.WellFormed ∧
      (n.children ≠ [] → n.logic = some "and" ∨ n.logic = some "or") := by
    cases n
    constructor
    · rintro ⟨named, known, joined⟩
      exact ⟨⟨named, known, absurd rfl⟩, joined⟩
    · rintro ⟨⟨named, known, -⟩, joined⟩
      exact ⟨named, known, joined⟩
  rw [tests, List.forall_mem_map, Joined, ← forall₂_and]
  exact forall₂_congr fun n _ => apart n

theorem slots_eq (c : Condition) : c.slots = c.tests.map operand? := by
  have alike (n : Condition) : n.alone.operand? = n.operand? := by
    cases n
    rfl
  simp [slots, tests, alike]

theorem fits_iff (schema : Schema α) (c : Condition) :
    c.nodes.findSome? (schemaFault schema) = none ↔ ∀ n ∈ c.tests, n.schemaFault schema = none := by
  have alike (n : Condition) : n.alone.schemaFault schema = n.schemaFault schema := by
    cases n
    rfl
  simp [tests, alike]

section

variable {field operator : String} {value : Option Value} {keyword : Option String}
  {cs ds : List Condition}

theorem tests_node : (node field operator value keyword cs).tests =
    node field operator value none [] :: cs.flatMap tests := by
  simp only [tests, nodes, nodesAll_eq, List.map_cons, List.map_flatMap, alone]
  rfl

theorem joined_node : (node field operator value keyword cs).Joined ↔
    (cs ≠ [] → keyword = some "and" ∨ keyword = some "or") ∧ ∀ c ∈ cs, c.Joined := by
  simp only [Joined, nodes, nodesAll_eq, List.forall_mem_cons, List.forall_mem_flatMap]
  rfl

variable {schema : Schema α} {x : α}

theorem meaning_combine {logic : Logic} (named : keyword.bind Logic.ofKeyword? = some logic) :
    (node field operator value keyword cs).meaning schema x =
      logic.combine ((node field operator value none []).ownTruth schema x ::
        cs.map (meaning schema x)) := by
  cases cs with
  | nil =>
    rw [List.map_nil, Logic.combine_cons, (logic.truth_combine_nil _).2]
    rfl
  | cons c cs =>
    rw [meaning_join named, meanings_eq]
    rfl

/-- Children can be exchanged for others where the logic of their parent, if it is one of the two,
makes the same of them. -/
theorem meaning_exchange (both : cs = [] ↔ ds = [])
    (same : ∀ logic : Logic, keyword.bind Logic.ofKeyword? = some logic →
      logic.combine (cs.map (meaning schema x)) = logic.combine (ds.map (meaning schema x))) :
    (node field operator value keyword cs).meaning schema x =
      (node field operator value keyword ds).meaning schema x := by
  cases named : keyword.bind Logic.ofKeyword? with
  | some logic =>
    simp only [meaning_combine named, Logic.combine_cons, same logic named]
  | none =>
    simp only [meaning, named, List.isEmpty_iff, both]
    rfl

end

/-- A change to the order of the children of a node, or to the grouping of children that one logic
joins: a child with the logic of its parent makes place for its own test and its children. -/
inductive Rearranges : Condition → Condition → Prop where
  | permuted {field operator : String} {value : Option Value} {logic : Option String}
      {children others : List Condition} : children.Perm others →
      Rearranges (node field operator value logic children)
        (node field operator value logic others)
  | dissolved {field operator field' operator' : String} {value value' : Option Value}
      {logic : Option String} (word : Option String) (before inner after : List Condition) :
      Rearranges
        (node field operator value logic
          (before ++ node field' operator' value' logic inner :: after))
        (node field operator value logic
          (before ++ node field' operator' value' word [] :: (inner ++ after)))
  | inside {field operator : String} {value : Option Value} {logic : Option String}
      {c d : Condition} (before after : List Condition) : Rearranges c d →
      Rearranges (node field operator value logic (before ++ c :: after))
        (node field operator value logic (before ++ d :: after))

/-- Trees of the same tests, with the same meaning. -/
structure Equivalent (a b : Condition) : Prop where
  tests : a.tests.Perm b.tests
  joined : a.Joined ↔ b.Joined
  meaning : ∀ {α : Type} (schema : Schema α) (x : α), a.meaning schema x = b.meaning schema x

theorem Rearranges.equivalent {a b : Condition} (rearranged : a.Rearranges b) :
    a.Equivalent b := by
  induction rearranged with
  | @permuted _ _ _ _ children others moved =>
    have both : children = [] ↔ others = [] := by
      simp only [← List.isEmpty_iff, moved.isEmpty_eq]
    constructor
    · simp only [tests_node]
      exact (moved.flatMap_right Condition.tests).cons _
    · simp only [joined_node, ne_eq, both, moved.mem_iff]
    · intro α schema x
      exact meaning_exchange both fun logic _ => logic.combine_perm (moved.map _)
  | dissolved word before inner after =>
    constructor
    · simp [tests_node]
    · -- the word that joins the inner children is the one that their new parent has as well
      simp only [joined_node, List.forall_mem_append, List.forall_mem_cons]
      simp +contextual
    · intro α schema x
      apply meaning_exchange (by simp)
      intro logic named
      simp only [List.map_append, List.map_cons, meaning_combine named, logic.combine_nested]
      rfl
  | inside _ _ _ ih =>
    constructor
    · simp only [tests_node, List.flatMap_append, List.flatMap_cons]
      exact ((ih.tests.append_right _).append_left _).cons _
    · simp only [joined_node, List.forall_mem_append, List.forall_mem_cons, ih.joined]
      simp
    · intro α schema x
      apply meaning_exchange (by simp)
      simp [ih.meaning]

namespace Equivalent

variable {a b c : Condition}

theorem refl (a : Condition) : Equivalent a a := ⟨.refl _, .rfl, fun _ _ => rfl⟩

theorem symm (same : Equivalent a b) : Equivalent b a :=
  ⟨same.tests.symm, same.joined.symm, fun schema x => (same.meaning schema x).symm⟩

theorem trans (first : Equivalent a b) (second : Equivalent b c) : Equivalent a c :=
  ⟨first.tests.trans second.tests, first.joined.trans second.joined,
    fun schema x => (first.meaning schema x).trans (second.meaning schema x)⟩

/-- Any number of changes, forwards and backwards. -/
theorem of_rearranged (rearranged : Relation.EqvGen Rearranges a b) : Equivalent a b := by
  induction rearranged with
  | rel a b step => exact step.equivalent
  | refl a => exact refl a
  | symm a b _ ih => exact ih.symm
  | trans a b c _ _ first second => exact first.trans second

theorem slots (same : Equivalent a b) : a.slots.Perm b.slots := by
  rw [slots_eq, slots_eq]
  exact same.tests.map operand?

theorem length (same : Equivalent a b) : a.nodes.length = b.nodes.length := by
  simpa [Condition.tests] using same.tests.length_eq

theorem wellFormed (same : Equivalent a b) :
    (∀ n ∈ a.nodes, n.WellFormed) ↔ ∀ n ∈ b.nodes, n.WellFormed := by
  simp only [wellFormed_nodes, same.joined, same.tests.mem_iff]

theorem fits (same : Equivalent a b) (schema : Schema α) :
    a.nodes.findSome? (schemaFault schema) = none ↔
      b.nodes.findSome? (schemaFault schema) = none := by
  simp only [fits_iff, same.tests.mem_iff]

end Equivalent

end Condition

/-- A tree compiles under the largest limits exactly if it has no more nodes than can be counted and
all of them are well-formed. It then is not too deep, having no more levels than nodes. -/
theorem Filter.ofCondition_unbounded (record : Placeholder) (root : Condition) :
    (∃ f, Filter.ofCondition .unbounded record root = .ok f) ↔
      root.nodes.length ≤ maxUInt64 ∧ ∀ n ∈ root.nodes, n.WellFormed := by
  have depth := root.depth_le_length
  have largest : (UInt64.ofNat maxUInt64).toNat = maxUInt64 := toNat_ofNat_of_le le_rfl
  simp only [Filter.ofCondition_eq, verdict_ok_iff, Condition.tree_fault_eq_none, Limits.unbounded,
    largest]
  constructor
  · rintro ⟨-, count, formed⟩
    exact ⟨count, formed⟩
  · rintro ⟨count, formed⟩
    exact ⟨depth.trans count, count, formed⟩

/-- Trees that come from one another by changes to the order and the grouping of children, at any
depth and in any number, are both compiled, about any placeholders, or neither is. They have the
same values in other places, and bind to the same test of records wherever one of them binds. -/
theorem rearranged_alike {a b : Condition}
    (rearranged : Relation.EqvGen Condition.Rearranges a b) (record other : Placeholder) :
    ((∃ f, Filter.ofCondition .unbounded record a = .ok f) ↔
      ∃ g, Filter.ofCondition .unbounded other b = .ok g) ∧
    ∀ f g, Filter.ofCondition .unbounded record a = .ok f →
      Filter.ofCondition .unbounded other b = .ok g →
        f.slots.Perm g.slots ∧ ∀ (α : Type) (schema : Schema α) (test : α → Truth),
          f.bind schema = .ok test ↔ g.bind schema = .ok test := by
  have same := Condition.Equivalent.of_rearranged rearranged
  constructor
  · simp only [Filter.ofCondition_unbounded, same.length, same.wellFormed]
  · intro f g compiled compiled'
    have formed := ((Filter.ofCondition_unbounded record a).mp ⟨f, compiled⟩).2
    have formed' := same.wellFormed.mp formed
    rw [Filter.ofCondition_eq, verdict_eq_ok] at compiled compiled'
    obtain ⟨-, rfl⟩ := compiled
    obtain ⟨-, rfl⟩ := compiled'
    refine ⟨same.slots, fun α schema test => ?_⟩
    simp only [Filter.bind_eq formed, Filter.bind_eq formed', verdict_eq_ok, same.fits,
      same.meaning]

/-- An A, of an age that is not under 18 or is missing or of a name with a b in it; and of another
name than Abe and an age under 65. -/
def nestedGroups : Condition :=
  .node "name" "startsWith" (some (.text "A")) (some "and")
    [.node "age" "gte" (some (.ofInt 18)) (some "or")
        [.node "age" "isNull" none none [], .node "name" "contains" (some (.text "b")) none []],
      .node "name" "neq" (some (.text "Abe")) (some "and")
        [.node "age" "lt" (some (.ofInt 65)) none []]]

/-- The same, with the second group taken apart and put in front, and the first one turned round. -/
def openGroups : Condition :=
  .node "name" "startsWith" (some (.text "A")) (some "and")
    [.node "age" "lt" (some (.ofInt 65)) none [], .node "name" "neq" (some (.text "Abe")) none [],
      .node "age" "gte" (some (.ofInt 18)) (some "or")
        [.node "name" "contains" (some (.text "b")) none [], .node "age" "isNull" none none []]]

theorem rearranged_alike_people :
    ∃ f g test, Filter.ofCondition .unbounded ⟨0⟩ nestedGroups = .ok f ∧
      Filter.ofCondition .unbounded ⟨1⟩ openGroups = .ok g ∧
      f.slots.Perm g.slots ∧ f.slots[5]? = some (some (.ofInt 65)) ∧
      g.slots[1]? = some (some (.ofInt 65)) ∧
      f.bind personSchema = .ok test ∧ g.bind personSchema = .ok test ∧
      test ("Ann", some 40) = .yes ∧ test ("Ann", none) = .unknown ∧ test ("Abe", none) = .no := by
  have turned (c d : Condition) : Condition.Rearranges
      (.node "age" "gte" (some (.ofInt 18)) (some "or") [c, d])
      (.node "age" "gte" (some (.ofInt 18)) (some "or") [d, c]) := .permuted (.swap d c [])
  have rearranged : Relation.EqvGen Condition.Rearranges nestedGroups openGroups := by
    apply Relation.EqvGen.trans
    · exact .rel _ _ (.inside [] [_] (turned _ _))
    apply Relation.EqvGen.trans
    · exact .rel _ _ (.dissolved none [_] [_] [])
    · exact .rel _ _ (.permuted (List.reverse_perm _).symm)
  obtain ⟨-, alike⟩ := rearranged_alike rearranged ⟨0⟩ ⟨1⟩
  have compiled : Filter.ofCondition .unbounded ⟨0⟩ nestedGroups =
      .ok (nestedGroups.filter ⟨0⟩) := rfl
  have compiled' : Filter.ofCondition .unbounded ⟨1⟩ openGroups =
      .ok (openGroups.filter ⟨1⟩) := rfl
  obtain ⟨values, tests⟩ := alike _ _ compiled compiled'
  obtain ⟨-, formed⟩ := (Filter.ofCondition_unbounded ⟨0⟩ nestedGroups).mp ⟨_, compiled⟩
  have bound : (nestedGroups.filter ⟨0⟩).bind personSchema =
      .ok fun x => nestedGroups.meaning personSchema x := Filter.bind_eq formed personSchema ⟨0⟩
  exact ⟨_, _, _, compiled, compiled', values, rfl, rfl, bound, (tests _ personSchema _).mp bound,
    rfl, rfl, rfl⟩

end RecordQuery
