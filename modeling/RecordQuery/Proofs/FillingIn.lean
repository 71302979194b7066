import RecordQuery.Proofs.Binding

/-! Filling in missing values. A tree without null checks decides by the values that are there. What
it says of a record, be it yes or no, it still says when fields that were missing get a value. -/
namespace RecordQuery

namespace Truth

/-- What the first truth decides is decided alike by the second one. -/
inductive KeptBy : Truth → Truth → Prop where
  | undecided (u : Truth) : KeptBy unknown u
  | same (t : Truth) : KeptBy t t

theorem KeptBy.eq {t u : Truth} (kept : t.KeptBy u) (decided : t ≠ unknown) : u = t := by
  cases kept with
  | undecided => exact absurd rfl decided
  | same => rfl

/-- In Kleene's tables a decision that is made with an unknown does not depend on it. -/
theorem KeptBy.truth (logic : Logic) {t u t' u' : Truth} (left : t.KeptBy u)
    (right : t'.KeptBy u') : (logic.truth t t').KeptBy (logic.truth u u') := by
  cases left with
  | same => cases right with
    | same => exact .same _
    | undecided => cases logic <;> cases t <;> cases u' <;> constructor
  | undecided => cases right with
    | same => cases logic <;> cases t' <;> cases u <;> constructor
    | undecided => cases logic <;> exact .undecided _

end Truth

theorem Logic.combine_kept (logic : Logic) {ts us : List Truth}
    (kept : List.Forall₂ Truth.KeptBy ts us) : (logic.combine ts).KeptBy (logic.combine us) := by
  induction kept with
  | nil => exact .same _
  | cons head _ ih => simpa only [combine_cons] using head.truth logic ih

/-- Null checks apart, no operator decides anything where there is no value. -/
theorem Operator.truth_none {op : Operator} (takes : op.takesValue = true)
    (given : Option Value) : op.truth none given = .unknown := by
  cases op with
  | isNull | isNotNull => cases takes
  | _ => rfl

namespace Condition

variable {α : Type} {schema : Schema α} {x y : α}

/-- A field of the first record that has a value has the same one in the second record. -/
def FilledIn (schema : Schema α) (x y : α) (path : String) : Prop :=
  ∀ f, schema path = some f → f.value? x = none ∨ f.value? x = f.value? y

theorem ownTruth_kept {c : Condition} (valued : c.operator ∉ nullChecks)
    (filled : FilledIn schema x y c.field) :
    (c.ownTruth schema x).KeptBy (c.ownTruth schema y) := by
  unfold ownTruth
  cases named : Operator.ofSymbol? c.operator with
  | none => exact .undecided _
  | some op =>
    have takes : op.takesValue = true := by
      rwa [takesValue_iff, Operator.ofSymbol?_eq_some.mp named]
    cases found : schema c.field with
    | none => exact .same _
    | some f =>
      simp only [Option.bind_some]
      rcases filled f found with missing | same
      · rw [missing, Operator.truth_none takes]
        exact .undecided _
      · rw [same]
        exact .same _

mutual

theorem meaning_kept : ∀ c : Condition, (∀ n ∈ c.nodes, n.operator ∉ nullChecks) →
    (∀ n ∈ c.nodes, FilledIn schema x y n.field) →
      (c.meaning schema x).KeptBy (c.meaning schema y)
  | node _ _ _ _ [], valued, filled =>
    ownTruth_kept (valued _ List.mem_cons_self) (filled _ List.mem_cons_self)
  | node field operator value keyword (c :: cs), valued, filled => by
    have own := ownTruth_kept (valued _ List.mem_cons_self) (filled _ List.mem_cons_self)
    have below := meanings_kept (c :: cs)
      (fun n here => valued n (List.mem_cons_of_mem _ here))
      fun n here => filled n (List.mem_cons_of_mem _ here)
    cases named : keyword.bind Logic.ofKeyword? with
    | none =>
      simp only [meaning, named]
      exact .same _
    | some logic =>
      rw [meaning_join named, meaning_join named]
      exact logic.combine_kept (.cons own below)

theorem meanings_kept : ∀ cs : List Condition, (∀ n ∈ nodesAll cs, n.operator ∉ nullChecks) →
    (∀ n ∈ nodesAll cs, FilledIn schema x y n.field) →
      List.Forall₂ Truth.KeptBy (meanings schema x cs) (meanings schema y cs)
  | [], _, _ => .nil
  | c :: cs, valued, filled => by
    obtain ⟨first, others⟩ := List.forall_mem_append.mp valued
    obtain ⟨head, tail⟩ := List.forall_mem_append.mp filled
    exact .cons (meaning_kept c first head) (meanings_kept cs others tail)

end

end Condition

/-- Under the filter of a tree without null checks, a record that is filled in, where fields had no
value and nowhere else, keeps the truth that it had if this was a decision. -/
theorem filling_in_keeps_decisions {limits : Limits} {record : Placeholder} {root : Condition}
    {filter : Filter} (compiled : Filter.ofCondition limits record root = .ok filter)
    (valued : ∀ c ∈ root.nodes, c.operator ≠ "isNull" ∧ c.operator ≠ "isNotNull")
    {schema : Schema α} {test : α → Truth} (bound : filter.bind schema = .ok test) {x y : α}
    (filled : ∀ c ∈ root.nodes, ∀ f, schema c.field = some f →
      f.value? x = none ∨ f.value? x = f.value? y) :
    (test x = .yes → test y = .yes) ∧ (test x = .no → test y = .no) := by
  rw [Filter.ofCondition_eq, verdict_eq_ok] at compiled
  obtain ⟨sound, rfl⟩ := compiled
  obtain ⟨-, -, formed⟩ := (Condition.tree_fault_eq_none limits root).mp sound
  rw [Filter.bind_eq formed, verdict_eq_ok] at bound
  obtain ⟨-, rfl⟩ := bound
  have kept : (root.meaning schema x).KeptBy (root.meaning schema y) := by
    apply Condition.meaning_kept root _ filled
    simpa [Condition.nullChecks] using valued
  constructor
  · intro (yes : root.meaning schema x = .yes)
    exact (kept.eq (by simp [yes])).trans yes
  · intro (no : root.meaning schema x = .no)
    exact (kept.eq (by simp [no])).trans no

/-- What is missing decides a null check, which a value then decides the other way. -/
example :
    (Condition.node "age" "isNull" none none []).meaning personSchema ("Ann", none) = .yes ∧
      (Condition.node "age" "isNull" none none []).meaning personSchema ("Ann", some 40) = .no :=
  ⟨rfl, rfl⟩

/-- A name that starts with an A, of one under 18 or with an n in it. -/
def initialFilter : Condition :=
  .node "name" "startsWith" (some (.text "A")) (some "and")
    [.node "age" "lt" (some (.ofInt 18)) (some "or")
      [.node "name" "contains" (some (.text "n")) none []]]

theorem filling_in_keeps_decisions_people :
    ∃ filter test, Filter.ofCondition .standard ⟨0⟩ initialFilter = .ok filter ∧
      filter.bind personSchema = .ok test ∧
      test ("Ann", none) = .yes ∧ test ("Ann", some 40) = .yes ∧
      test ("Bob", none) = .no ∧ test ("Bob", some 4) = .no ∧
      test ("Abe", none) = .unknown ∧ test ("Abe", some 4) = .yes := by
  have compiled : Filter.ofCondition .standard ⟨0⟩ initialFilter =
      .ok (initialFilter.filter ⟨0⟩) := rfl
  obtain ⟨-, -, formed⟩ := (Condition.tree_fault_eq_none .standard initialFilter).mp rfl
  have bound : (initialFilter.filter ⟨0⟩).bind personSchema =
      .ok fun x => initialFilter.meaning personSchema x := Filter.bind_eq formed personSchema ⟨0⟩
  have valued : ∀ c ∈ initialFilter.nodes, c.operator ≠ "isNull" ∧ c.operator ≠ "isNotNull" := by
    simp [initialFilter, Condition.nodes, Condition.nodesAll, Condition.operator]
  have aged (name : String) (age : Option Int) : ∀ c ∈ initialFilter.nodes, ∀ f,
      personSchema c.field = some f →
        f.value? (name, none) = none ∨ f.value? (name, none) = f.value? (name, age) := by
    simp [initialFilter, Condition.nodes, Condition.nodesAll, Condition.field, personSchema,
      Field.value?]
  have ann := filling_in_keeps_decisions compiled valued bound (aged "Ann" (some 40))
  have bob := filling_in_keeps_decisions compiled valued bound (aged "Bob" (some 4))
  exact ⟨_, _, compiled, bound, rfl, ann.1 rfl, rfl, bob.2 rfl, rfl, rfl⟩

end RecordQuery
