import RecordQuery.Json.Path
import RecordQuery.Proofs.Parallel
import RecordQuery.Proofs.StableSort

/-! The encoding of numbers. Whether thirty is written as 30, 30.0 or 3e1, in a condition or in a
record, makes no difference outside the operators on text: all else goes by the size of a number. -/
namespace RecordQuery

variable {α β : Type}

namespace Value

/-- The same value, or a number of the same size in other digits or with another scale. -/
inductive Recodes : Value → Value → Prop where
  | same (v : Value) : Recodes v v
  | number {d e : Decimal} (size : d.value = e.value) : Recodes (.number d) (.number e)

variable {a b a' b' : Value}

theorem Recodes.sameType (recoded : a.Recodes a') : a.SameType a' := by
  cases recoded with
  | same => exact sameType_of_eq rfl
  | number => exact .number _ _

theorem Recodes.compare_left (recoded : a.Recodes a') (b : Value) :
    a.compare b = a'.compare b := by
  cases recoded with
  | same => rfl
  | number size => exact compare_number_congr size b

theorem Recodes.compare (left : a.Recodes a') (right : b.Recodes b') :
    a.compare b = a'.compare b' := by
  rw [left.compare_left, compare_swap, right.compare_left, ← compare_swap]

end Value

section

variable {a b a' b' : Option Value} (left : Option.Rel Value.Recodes a a')
  (right : Option.Rel Value.Recodes b b')

include left right

theorem orderOf_recoded : orderOf a b = orderOf a' b' := by
  cases left with
  | none => rfl
  | some first =>
    cases right with
    | none => rfl
    | some second => exact first.compare second

theorem compareValues_recoded : compareValues a b = compareValues a' b' := by
  cases left with
  | none => cases right <;> rfl
  | some first =>
    cases right with
    | none => rfl
    | some second => simp only [compareValues, first.compare second]

end

theorem Operator.truth_recoded {op : Operator} (plain : op.symbol ∉ Condition.textTests)
    {read given read' given' : Option Value} (reads : Option.Rel Value.Recodes read read')
    (operands : Option.Rel Value.Recodes given given') :
    op.truth read given = op.truth read' given' := by
  have ordered := orderOf_recoded reads operands
  have there : read.isSome = read'.isSome := by
    cases reads <;> rfl
  cases op with
  | isNull | isNotNull => simp only [truth, ← Option.not_isSome, there]
  | eq | neq | lt | lte | gt | gte => simp only [truth, ordered]
  | startsWith | endsWith | contains | doesNotContain =>
    exact absurd (by decide) plain

/-- Fields of one kind that read the same from records which are paired, up to the encoding of
numbers. -/
structure Field.Recodes (pair : α → β → Prop) (f : Field α) (g : Field β) : Prop where
  kind : f.kind = g.kind
  read : ∀ x y, pair x y → Option.Rel Value.Recodes (f.read x) (g.read y)

theorem Field.Recodes.value? {pair : α → β → Prop} {f : Field α} {g : Field β}
    (recoded : f.Recodes pair g) {x : α} {y : β} (paired : pair x y) :
    Option.Rel Value.Recodes (f.value? x) (g.value? y) :=
  rel_filter (recoded.read x y paired) fun _ _ same => congrArg (!·) same.sameType.isNull_eq

def Schema.Recodes (pair : α → β → Prop) (schema : Schema α) (schema' : Schema β) : Prop :=
  ∀ path, Option.Rel (Field.Recodes pair) (schema path) (schema' path)

namespace Json

/-- The same JSON values but for the encoding of numbers at any depth. -/
inductive Recodes : Json → Json → Prop where
  | null : Recodes .null .null
  | bool (b : Bool) : Recodes (.bool b) (.bool b)
  | string (s : String) : Recodes (.string s) (.string s)
  | number {m n : Json.Number} (size : m.toDecimal.value = n.toDecimal.value) :
      Recodes (.number m) (.number n)
  | array {xs ys : List Json} : List.Forall₂ Recodes xs ys → Recodes (.array xs) (.array ys)
  | object {xs ys : List (String × Json)} : xs.map (·.1) = ys.map (·.1) →
      List.Forall₂ Recodes (xs.map (·.2)) (ys.map (·.2)) → Recodes (.object xs) (.object ys)

variable {x y : Json}

theorem Recodes.member (name : String) : ∀ {xs ys : List (String × Json)},
    xs.map (·.1) = ys.map (·.1) → List.Forall₂ Recodes (xs.map (·.2)) (ys.map (·.2)) →
      Option.Rel Recodes ((xs.find? fun m => m.1 == name).map (·.2))
        ((ys.find? fun m => m.1 == name).map (·.2))
  | [], [], _, _ => .none
  | (key, x) :: xs, (key', y) :: ys, named, .cons head tail => by
    obtain ⟨rfl, others⟩ := List.cons.inj named
    simp only [List.find?_cons]
    split
    · exact .some head
    · exact Recodes.member name others tail

theorem Recodes.element : ∀ {xs ys : List Json}, List.Forall₂ Recodes xs ys → ∀ i : Nat,
    Option.Rel Recodes xs[i]? ys[i]?
  | _, _, .nil, _ => .none
  | _, _, .cons head _, 0 => .some head
  | _, _, .cons _ tail, i + 1 => Recodes.element tail i

theorem Recodes.step? (segment : String) (recoded : x.Recodes y) :
    Option.Rel Recodes (step? segment x) (step? segment y) := by
  cases recoded with
  | null | bool | string | number => exact .none
  | object named held => exact Recodes.member segment named held
  | array held =>
    unfold Json.step?
    cases readSignedNat? segment.toList with
    | none => exact .none
    | some i => exact Recodes.element held i

theorem Recodes.walk? (segments : List String) (recoded : x.Recodes y) :
    Option.Rel Recodes (walk? segments x) (walk? segments y) := by
  induction segments generalizing x y with
  | nil => exact .some recoded
  | cons segment rest ih => exact rel_bind (recoded.step? segment) fun _ _ => ih

theorem Recodes.ofJson (recoded : x.Recodes y) :
    Option.Rel Value.Recodes (Value.ofJson x).toOption (Value.ofJson y).toOption := by
  cases recoded with
  | null | bool | string => exact .some (.same _)
  | number size => exact .some (.number size)
  | array | object => exact .none

theorem schema_recodes : Schema.Recodes Recodes schema schema := by
  intro path
  unfold schema
  cases segments? path with
  | none => exact .none
  | some segments =>
    refine .some ⟨rfl, fun x y recoded => ?_⟩
    refine rel_bind (recoded.walk? segments) fun _ _ scalar => ?_
    exact rel_filter scalar.ofJson fun _ _ same => congrArg (!·) same.sameType.isNull_eq

end Json

abbrev Condition.Recodes : Condition → Condition → Prop := Parallel Eq Value.Recodes

theorem Condition.ownTruth_recoded {pair : α → β → Prop} {schema : Schema α} {schema' : Schema β}
    (encoded : Schema.Recodes pair schema schema') {c d : Condition} (recoded : c.Recodes d)
    (plain : c.operator ∉ textTests) {x : α} {y : β} (paired : pair x y) :
    c.ownTruth schema x = d.ownTruth schema' y := by
  have operands := recoded.operand? fun _ _ => Value.Recodes.sameType
  have reads : Option.Rel Value.Recodes ((schema c.field).bind fun f => f.value? x)
      ((schema' d.field).bind fun f => f.value? y) := by
    rw [← recoded.field]
    exact rel_bind (encoded c.field) fun f g same => same.value? paired
  unfold ownTruth
  rw [← recoded.operator_eq]
  cases named : Operator.ofSymbol? c.operator with
  | none => rfl
  | some op =>
    rw [← Operator.ofSymbol?_eq_some.mp named] at plain
    exact Operator.truth_recoded plain reads operands

namespace Condition

mutual

theorem formula_recoded (record : Placeholder) (seen : Nat) : ∀ c d : Condition, c.Recodes d →
    c.formula record seen = d.formula record seen
  | node field operator value logic children, _, recoded => by
    have op := recoded.op_eq
    cases recoded with
    | @node _ _ _ _ value' _ _ children' named _ below =>
      have others := formulas_recoded record (seen + 1) children children' below
      have joint : (node field operator value logic children).joint =
          (node field operator value' logic children').joint := by
        cases below <;> rfl
      subst named
      -- a value goes into a slot, and the formula has its number alone
      simp only [formula, op, joint, others]

theorem formulas_recoded (record : Placeholder) (seen : Nat) : ∀ cs ds : List Condition,
    List.Forall₂ Recodes cs ds → formulas record seen cs = formulas record seen ds
  | [], _, .nil => rfl
  | c :: cs, _, .cons (b := d) head tail => by
    have size : c.nodes.length = d.nodes.length := (nodes_parallel head).length_eq
    rw [formulas, formulas, formula_recoded record seen c d head, size,
      formulas_recoded record _ cs _ tail]

end

end Condition

theorem RequestError.eq_of_about {e e' : RequestError} (about : e.About Eq e') : e = e' := by
  cases about with
  | same => rfl
  | invalidLogic | missingValue | unexpectedValue =>
    subst_vars
    rfl

theorem BindError.eq_of_about {e e' : BindError} (about : e.About Eq e') : e = e' := by
  cases about with
  | unknownField | typeMismatch =>
    subst_vars
    rfl

section

variable {pair : α → β → Prop}

/-- Sorting keeps pairs together if the comparison does not tell the one side from the other. -/
theorem stableSort_paired {cmp : α → α → Ordering} {cmp' : β → β → Ordering}
    (same : ∀ x x', pair x x' → ∀ y y', pair y y' → cmp x y = cmp' x' y') {xs : List α}
    {ys : List β} (paired : List.Forall₂ pair xs ys) :
    List.Forall₂ pair (stableSort cmp xs) (stableSort cmp' ys) := by
  obtain ⟨ps, rfl, rfl⟩ : ∃ ps : List {p : α × β // pair p.1 p.2},
      ps.map (·.val.1) = xs ∧ ps.map (·.val.2) = ys := by
    induction paired with
    | nil => exact ⟨[], rfl, rfl⟩
    | cons head _ ih =>
      obtain ⟨ps, rfl, rfl⟩ := ih
      exact ⟨⟨(_, _), head⟩ :: ps, rfl, rfl⟩
  -- each side is what the sorted list of pairs has on that side
  have comparisons : (fun p q : {p : α × β // pair p.1 p.2} => cmp p.val.1 q.val.1) =
      fun p q => cmp' p.val.2 q.val.2 := by
    funext p q
    exact same _ _ p.property _ _ q.property
  rw [← stableSort_map, ← stableSort_map, comparisons, List.forall₂_map_left_iff,
    List.forall₂_map_right_iff, List.forall₂_same]
  exact fun p _ => p.property

/-- The encoding of numbers makes no difference to a condition tree without operators on text, nor
to an order: the same is compiled and bound, the same is said of records that are paired, and they
are sorted alike. -/
theorem recoded_alike {schema : Schema α} {schema' : Schema β}
    (encoded : Schema.Recodes pair schema schema') {c d : Condition} (recoded : c.Recodes d)
    (plain : ∀ n ∈ c.nodes, n.operator ∉ Condition.textTests) (limits : Limits)
    (record : Placeholder) (keys : List SortKey) :
    Agree Eq
      (fun f g => f.lambda = g.lambda ∧ List.Forall₂ (Option.Rel Value.Recodes) f.slots g.slots ∧
        Agree Eq (fun s t => ∀ x y, pair x y → s x = t y) (f.bind schema) (g.bind schema'))
      (Filter.ofCondition limits record c) (Filter.ofCondition limits record d) ∧
    Agree Eq
      (fun bound bound' =>
        (∀ x x', pair x x' → ∀ y y', pair y y' →
          compareRecords bound x y = compareRecords bound' x' y') ∧
        ∀ rows rows', List.Forall₂ pair rows rows' →
          List.Forall₂ pair (stableSort (compareRecords bound) rows)
            (stableSort (compareRecords bound') rows'))
      (SortKey.bindAll schema keys) (SortKey.bindAll schema' keys) := by
  have typed : ∀ v w : Value, v.Recodes w → v.SameType w := fun _ _ => Value.Recodes.sameType
  have found (s t : String) (same : s = t) :
      Option.Rel (Field.Recodes pair) (schema s) (schema' t) := same ▸ encoded s
  constructor
  · have kinds (s t : String) (same : s = t) :
        Option.Rel (fun f g => f.kind = g.kind) (schema s) (schema' t) :=
      rel_imp (found s t same) fun _ _ => Field.Recodes.kind
    have blank (s t : String) (same : s = t) : isBlankText s = isBlankText t := congrArg _ same
    have compiled := Filter.ofCondition_parallel typed blank recoded limits record
    refine compiled.imp (fun _ _ => RequestError.eq_of_about) ?_
    rintro _ _ ⟨rfl, rfl, formed, formed'⟩
    refine ⟨?_, ?_, ?_⟩
    · simp only [Condition.filter, Condition.formula_recoded record 0 c d recoded]
    · have slots := (Condition.nodes_parallel recoded).imp fun n n' here => here.operand? typed
      simpa only [Condition.filter, Condition.slots, List.forall₂_map_left_iff,
        List.forall₂_map_right_iff] using slots
    · have bound := Filter.bind_parallel typed kinds recoded formed formed' record
      refine bound.imp (fun _ _ => BindError.eq_of_about) fun s t same x y paired => ?_
      exact same x y fun n member n' here =>
        Condition.ownTruth_recoded encoded here (plain n member) paired
  · have same : List.Forall₂ (SortKey.Parallel Eq) keys keys :=
      List.forall₂_same.mpr fun _ _ => ⟨rfl, rfl⟩
    have bound := SortKey.bindAll_parallel found same
    refine bound.imp (fun _ _ => BindError.eq_of_about) fun ks ks' alike => ?_
    have comparisons : ∀ x x', pair x x' → ∀ y y', pair y y' →
        compareRecords ks x y = compareRecords ks' x' y' := by
      intro x x' first y y' second
      exact compareRecords_parallel alike fun f g recoded =>
        compareValues_recoded (recoded.value? first) (recoded.value? second)
    exact ⟨comparisons, fun _ _ => stableSort_paired comparisons⟩

end

/-- The number 30.0 as JSON has it. -/
def thirtyPointZero : Json.Number :=
  .real ⟨false, 8444249301319680, -48, by decide, by decide, by decide, by decide⟩

theorem thirtyPointZero_value : thirtyPointZero.toDecimal.value = (Decimal.ofInt 30).value := by
  have spelled : thirtyPointZero.toDecimal = ⟨300, 1⟩ := by decide +kernel
  rw [spelled]
  decide +kernel

def namedAged (name : String) (age : Json.Number) : Json :=
  .object [("age", .number age), ("name", .string name)]

theorem namedAged_recodes (name : String) {age age' : Json.Number}
    (size : age.toDecimal.value = age'.toDecimal.value) :
    (namedAged name age).Recodes (namedAged name age') :=
  .object rfl (.cons (.number size) (.cons (.string name) .nil))

def fromAge (age : Decimal) : Condition :=
  .node "age" "gte" (some (.number age)) (some "and")
    [.node "name" "neq" (some (.text "Bob")) none []]

theorem fromAge_recodes {age age' : Decimal} (size : age.value = age'.value) :
    (fromAge age).Recodes (fromAge age') :=
  .node rfl (.some (.number size))
    (.cons (.node rfl (.some (.same _)) .nil) .nil)

/-- The tree has 3e1 in the one run and 30.0 in the other, and Ann's age is 30.0 and 30. -/
theorem recoded_alike_thirty :
    let tree := fromAge ⟨3, -1⟩
    let tree' := fromAge ⟨300, 1⟩
    let ann := namedAged "Ann" thirtyPointZero
    let ann' := namedAged "Ann" (.int 30)
    let dan := namedAged "Dan" (.int 29)
    let keys : List SortKey := [⟨"age", .descending⟩]
    ∃ test test' bound bound',
      (tree.filter ⟨0⟩).bind Json.schema = .ok test ∧
      (tree'.filter ⟨0⟩).bind Json.schema = .ok test' ∧
      test ann = test' ann' ∧ test' ann' = .yes ∧
      SortKey.bindAll Json.schema keys = .ok bound ∧
      SortKey.bindAll Json.schema keys = .ok bound' ∧
      compareRecords bound ann dan = compareRecords bound' ann' dan ∧
      compareRecords bound' ann' dan = .lt := by
  intro tree tree' ann ann' dan keys
  have size : (⟨3, -1⟩ : Decimal).value = (⟨300, 1⟩ : Decimal).value := by decide +kernel
  have anns : ann.Recodes ann' := namedAged_recodes "Ann" thirtyPointZero_value
  have dans : dan.Recodes dan := namedAged_recodes "Dan" rfl
  obtain ⟨filters, orders⟩ := recoded_alike Json.schema_recodes (fromAge_recodes size)
    (by decide) .standard ⟨0⟩ keys
  have compiled : Filter.ofCondition .standard ⟨0⟩ tree = .ok (tree.filter ⟨0⟩) := rfl
  have compiled' : Filter.ofCondition .standard ⟨0⟩ tree' = .ok (tree'.filter ⟨0⟩) := rfl
  obtain ⟨test, found⟩ : ∃ test, (tree.filter ⟨0⟩).bind Json.schema = .ok test := ⟨_, rfl⟩
  obtain ⟨test', found'⟩ : ∃ test, (tree'.filter ⟨0⟩).bind Json.schema = .ok test := ⟨_, rfl⟩
  obtain ⟨bound, sorted⟩ : ∃ bound, SortKey.bindAll Json.schema keys = .ok bound := ⟨_, rfl⟩
  rw [compiled, compiled'] at filters
  obtain ⟨-, -, tests⟩ := filters.of_ok
  rw [found, found'] at tests
  rw [sorted] at orders
  refine ⟨test, test', bound, bound, found, found', tests.of_ok ann ann' anns, ?_, sorted, sorted,
    orders.of_ok.1 ann ann' anns dan dan dans, ?_⟩
  · cases found'
    rfl
  · cases sorted
    decide

/-- An operator on text sees the point in 30.0. -/
example :
    let tree : Condition := .node "age" "contains" (some (.text ".")) none []
    tree.meaning Json.schema (namedAged "Ann" thirtyPointZero) = .yes ∧
      tree.meaning Json.schema (namedAged "Ann" (.int 30)) = .no := by
  decide +kernel

end RecordQuery
