import RecordQuery.Proofs.Agreement
import RecordQuery.Proofs.Binding
import RecordQuery.Proofs.Comparison

/-! Requests of one shape, whose trees have the same operators and the same words of logic and differ
in names of fields and in values. They are compiled and bound in step: a node in one of the trees has
a fault where its counterpart has one. -/
namespace RecordQuery

variable {α β : Type}

/-- The errors are the same but for a name of a field. -/
inductive RequestError.About (names : String → String → Prop) : RequestError → RequestError → Prop
  | same (e : RequestError) : About names e e
  | invalidLogic {s t : String} (logic : Option String) :
      names s t → About names (.invalidLogic s logic) (.invalidLogic t logic)
  | missingValue {s t : String} (operator : String) :
      names s t → About names (.missingValue s operator) (.missingValue t operator)
  | unexpectedValue {s t : String} (operator : String) :
      names s t → About names (.unexpectedValue s operator) (.unexpectedValue t operator)

theorem RequestError.about_refl {names : String → String → Prop} (fault : Option RequestError) :
    Option.Rel (About names) fault fault := by
  cases fault with
  | none => exact .none
  | some e => exact .some (.same e)

inductive BindError.About (names : String → String → Prop) : BindError → BindError → Prop
  | unknownField {s t : String} :
      names s t → About names (.unknownField s) (.unknownField t)
  | typeMismatch {s t : String} (expected : FieldKind) (got : String) :
      names s t → About names (.typeMismatch s expected got) (.typeMismatch t expected got)

namespace Condition

/-- Trees of one shape with the same operators and words of logic, in which the names of fields and
the values at the same places are related. -/
inductive Parallel (names : String → String → Prop) (values : Value → Value → Prop) :
    Condition → Condition → Prop where
  | node {field field' operator : String} {value value' : Option Value} {logic : Option String}
      {children children' : List Condition} : names field field' →
      Option.Rel values value value' → List.Forall₂ (Parallel names values) children children' →
        Parallel names values (node field operator value logic children)
          (node field' operator value' logic children')

variable {names : String → String → Prop} {values : Value → Value → Prop}

def ParallelAt (names : String → String → Prop) (values : Value → Value → Prop)
    (p q : Nat × Condition) : Prop := p.1 = q.1 ∧ p.2.Parallel names values q.2

mutual

theorem places_parallel (depth : Nat) : ∀ c d : Condition, c.Parallel names values d →
    List.Forall₂ (ParallelAt names values) (c.places depth) (d.places depth)
  | node _ _ _ _ children, _, related => by
    cases related with
    | node named valued below =>
      exact .cons ⟨rfl, .node named valued below⟩ (placesAll_parallel (depth + 1) children _ below)

theorem placesAll_parallel (depth : Nat) : ∀ cs ds : List Condition,
    List.Forall₂ (Parallel names values) cs ds →
      List.Forall₂ (ParallelAt names values) (placesAll depth cs) (placesAll depth ds)
  | [], _, .nil => .nil
  | c :: cs, _, .cons head tail =>
    List.rel_append (places_parallel depth c _ head) (placesAll_parallel depth cs _ tail)

end

theorem nodes_parallel {c d : Condition} (related : c.Parallel names values d) :
    List.Forall₂ (Parallel names values) c.nodes d.nodes := by
  simp only [← places_nodes 0, List.forall₂_map_left_iff, List.forall₂_map_right_iff]
  exact (places_parallel 0 c d related).imp fun _ _ => And.right

mutual

/-- Trees mean the same where the tests of their nodes say the same. -/
theorem meaning_parallel {schema : Schema α} {schema' : Schema β} {x : α} {y : β} :
    ∀ c d : Condition, c.Parallel names values d →
      (∀ n ∈ c.nodes, ∀ n', n.Parallel names values n' →
        n.ownTruth schema x = n'.ownTruth schema' y) →
      c.meaning schema x = d.meaning schema' y
  | node _ _ _ _ children, _, related, same => by
    have own := same _ List.mem_cons_self _ related
    cases related with
    | node named valued below =>
      have others := meanings_parallel children _ below fun n here =>
        same n (List.mem_cons_of_mem _ here)
      simp only [meaning, own, others, isEmpty_parallel below]

theorem meanings_parallel {schema : Schema α} {schema' : Schema β} {x : α} {y : β} :
    ∀ cs ds : List Condition, List.Forall₂ (Parallel names values) cs ds →
      (∀ n ∈ nodesAll cs, ∀ n', n.Parallel names values n' →
        n.ownTruth schema x = n'.ownTruth schema' y) →
      meanings schema x cs = meanings schema' y ds
  | [], _, .nil, _ => rfl
  | c :: cs, _, .cons head tail, same => by
    obtain ⟨first, others⟩ := List.forall_mem_append.mp same
    simp only [meanings, meaning_parallel c _ head first, meanings_parallel cs _ tail others]

end

section

variable {c d : Condition}

theorem Parallel.operator_eq (related : c.Parallel names values d) : c.operator = d.operator := by
  cases related
  rfl

theorem Parallel.op_eq (related : c.Parallel names values d) : c.op = d.op := by
  rw [op, op, related.operator_eq]

theorem Parallel.logic_eq (related : c.Parallel names values d) : c.logic = d.logic := by
  cases related
  rfl

theorem Parallel.leaf_iff (related : c.Parallel names values d) :
    c.children = [] ↔ d.children = [] := by
  cases related with
  | node _ _ below => cases below <;> simp [children]

theorem Parallel.field (related : c.Parallel names values d) : names c.field d.field := by
  cases related with
  | node named _ _ => exact named

variable (typed : ∀ v w, values v w → v.SameType w)

include typed in
theorem Parallel.operand? (related : c.Parallel names values d) :
    Option.Rel values c.operand? d.operand? := by
  cases related with
  | node _ valued _ =>
    exact rel_filter valued fun v w same => congrArg (!·) (typed v w same).isNull_eq

include typed in
theorem Parallel.valueFault (related : c.Parallel names values d) :
    Option.Rel (RequestError.About names) c.valueFault d.valueFault := by
  have operands := related.operand? typed
  have named := related.field
  unfold Condition.valueFault
  rw [related.operator_eq]
  generalize c.operand? = v at operands
  generalize d.operand? = w at operands
  split
  · cases operands with
    | none => exact .none
    | some => exact .some (.unexpectedValue _ named)
  · cases operands with
    | none => exact .some (.missingValue _ named)
    | some => exact .none

theorem Parallel.logicFault (related : c.Parallel names values d) :
    Option.Rel (RequestError.About names) c.logicFault d.logicFault := by
  unfold Condition.logicFault
  simp only [related.leaf_iff, related.logic_eq]
  split
  · exact .none
  · exact .some (.invalidLogic _ related.field)

variable (blank : ∀ s t, names s t → isBlankText s = isBlankText t)

include typed blank

theorem Parallel.ownFault (related : c.Parallel names values d) :
    Option.Rel (RequestError.About names) c.ownFault d.ownFault := by
  have named := related.field
  have fields : c.fieldFault = d.fieldFault := by
    simp only [fieldFault, trimBlank_eq_nil, blank _ _ named]
  have operators : c.operatorFault = d.operatorFault := by
    simp only [operatorFault, related.operator_eq]
  unfold Condition.ownFault
  rw [fields, operators]
  refine rel_or (RequestError.about_refl _) (rel_or (RequestError.about_refl _) ?_)
  exact rel_or (related.valueFault typed) related.logicFault

theorem firstFault_parallel (limits : Limits) {ps qs : List (Nat × Condition)}
    (related : List.Forall₂ (ParallelAt names values) ps qs) (seen : Nat) :
    Option.Rel (RequestError.About names) (firstFault limits seen ps)
      (firstFault limits seen qs) := by
  induction related generalizing seen with
  | nil => exact .none
  | @cons p q ps qs head _ ih =>
    obtain ⟨depth, c⟩ := p
    obtain ⟨_, d⟩ := q
    obtain ⟨rfl, here⟩ := head
    rw [firstFault_cons, firstFault_cons]
    refine rel_or ?_ (ih (seen + 1))
    -- the depth and the count have no name in them
    refine rel_or (RequestError.about_refl _) (rel_or (RequestError.about_refl _) ?_)
    exact here.ownFault typed blank

end

section

variable {schema : Schema α} {schema' : Schema β} {c d : Condition}
  (typed : ∀ v w, values v w → v.SameType w)
  (kinds : ∀ s t, names s t → Option.Rel (fun f g => f.kind = g.kind) (schema s) (schema' t))

include typed kinds

theorem Parallel.schemaFault (related : c.Parallel names values d) :
    Option.Rel (BindError.About names) (c.schemaFault schema) (d.schemaFault schema') := by
  have operands := related.operand? typed
  have named := related.field
  have found := kinds _ _ named
  unfold Condition.schemaFault
  generalize schema c.field = f at found
  generalize schema' d.field = g at found
  cases found with
  | none => exact .some (.unknownField named)
  | @some f g same =>
    -- one kind on both sides, and what it accepts goes by the type of a value
    simp only [same]
    cases g.kind with
    | none => exact .none
    | some kind =>
      simp only [Option.bind_some, kindFault, related.op_eq]
      cases d.op.kind with
      | nullCheck => exact .none
      | textTest =>
        dsimp only
        split
        · exact .none
        · exact .some (.typeMismatch _ _ named)
      | compare =>
        refine rel_bind operands fun v w alike => ?_
        cases typed v w alike
        all_goals
          cases kind <;> first | exact .none | exact .some (.typeMismatch _ _ named)

end

end Condition

section

variable {names : String → String → Prop} {values : Value → Value → Prop} {schema : Schema α}
  {schema' : Schema β} {c d : Condition} (typed : ∀ v w, values v w → v.SameType w)

include typed

theorem Filter.ofCondition_parallel
    (blank : ∀ s t, names s t → isBlankText s = isBlankText t)
    (related : c.Parallel names values d) (limits : Limits) (record : Placeholder) :
    Agree (RequestError.About names)
      (fun f g => f = c.filter record ∧ g = d.filter record ∧ (∀ n ∈ c.nodes, n.WellFormed) ∧
        ∀ n ∈ d.nodes, n.WellFormed)
      (ofCondition limits record c) (ofCondition limits record d) := by
  rw [ofCondition_eq, ofCondition_eq]
  have places := Condition.places_parallel 1 c d related
  refine verdict_agree (Condition.firstFault_parallel typed blank limits places 0) ?_
  intro sound sound'
  rw [Condition.tree_fault_eq_none] at sound sound'
  exact ⟨rfl, rfl, sound.2.2, sound'.2.2⟩

theorem Filter.bind_parallel
    (kinds : ∀ s t, names s t → Option.Rel (fun f g => f.kind = g.kind) (schema s) (schema' t))
    (related : c.Parallel names values d) (formed : ∀ n ∈ c.nodes, n.WellFormed)
    (formed' : ∀ n ∈ d.nodes, n.WellFormed) (record : Placeholder) :
    Agree (BindError.About names) (fun s t => ∀ x y,
        (∀ n ∈ c.nodes, ∀ n', n.Parallel names values n' →
          n.ownTruth schema x = n'.ownTruth schema' y) → s x = t y)
      ((c.filter record).bind schema) ((d.filter record).bind schema') := by
  rw [bind_eq formed, bind_eq formed']
  have faults := rel_findSome? (Condition.nodes_parallel related) fun n n' here =>
    here.schemaFault typed kinds
  exact verdict_agree faults fun _ _ x y same => Condition.meaning_parallel c d related same

end

section

variable {names : String → String → Prop} {fields : Field α → Field β → Prop} {schema : Schema α}
  {schema' : Schema β}

structure SortKey.Parallel (names : String → String → Prop) (k k' : SortKey) : Prop where
  field : names k.field k'.field
  direction : k.direction = k'.direction

structure BoundKey.Parallel (fields : Field α → Field β → Prop) (k : BoundKey α)
    (k' : BoundKey β) : Prop where
  field : fields k.field k'.field
  direction : k.direction = k'.direction

theorem SortKey.bindAll_parallel {keys keys' : List SortKey}
    (found : ∀ s t, names s t → Option.Rel fields (schema s) (schema' t))
    (related : List.Forall₂ (Parallel names) keys keys') :
    Agree (BindError.About names) (List.Forall₂ (BoundKey.Parallel fields)) (bindAll schema keys)
      (bindAll schema' keys') := by
  refine mapM_agree related fun k k' here => ?_
  have there := found _ _ here.field
  unfold bind
  generalize schema k.field = f at there
  generalize schema' k'.field = g at there
  cases there with
  | none => exact .error (.unknownField here.field)
  | some same => exact .ok ⟨same, here.direction⟩

theorem compareRecords_parallel {x y : α} {x' y' : β} {keys : List (BoundKey α)}
    {keys' : List (BoundKey β)} (related : List.Forall₂ (BoundKey.Parallel fields) keys keys')
    (same : ∀ f g, fields f g → compareValues (f.value? x) (f.value? y) =
      compareValues (g.value? x') (g.value? y')) :
    compareRecords keys x y = compareRecords keys' x' y' := by
  induction related with
  | nil => rfl
  | cons head _ ih =>
    simp only [compareRecords, BoundKey.compare, ih, head.direction, same _ _ head.field]

end

structure Request.Parallel (names : String → String → Prop) (values : Value → Value → Prop)
    (r r' : Request) : Prop where
  sort : List.Forall₂ (fun e e' => names e.field e'.field ∧ e.direction = e'.direction) r.sort
    r'.sort
  filter : Option.Rel (Condition.Parallel names values) r.filter r'.filter

section

variable {names : String → String → Prop} {values : Value → Value → Prop}
  (typed : ∀ v w, values v w → v.SameType w)
  (blank : ∀ s t, names s t → isBlankText s = isBlankText t)

include blank in
theorem SortEntry.fault_parallel {e e' : SortEntry} (named : names e.field e'.field)
    (worded : e.direction = e'.direction) : e.fault = e'.fault := by
  simp only [fault, fieldFault, directionFault, trimBlank_eq_nil, blank _ _ named, worded]

include typed blank

theorem Request.fault_parallel {r r' : Request} (related : r.Parallel names values r')
    (limits : Limits) :
    Option.Rel (RequestError.About names) (r.fault limits) (r'.fault limits) := by
  have counts : r.sortCountFault limits = r'.sortCountFault limits := by
    simp only [sortCountFault, related.sort.length_eq]
  have entries : Option.Rel (RequestError.About names) (r.sort.findSome? SortEntry.fault)
      (r'.sort.findSome? SortEntry.fault) := by
    refine rel_findSome? related.sort fun e e' same => ?_
    rw [SortEntry.fault_parallel blank same.1 same.2]
    exact RequestError.about_refl _
  have trees := rel_bind related.filter fun c d same =>
    Condition.firstFault_parallel typed blank limits (Condition.places_parallel 1 c d same) 0
  unfold Request.fault
  rw [counts]
  exact rel_or (RequestError.about_refl _) (rel_or entries trees)

end

end RecordQuery
