import RecordQuery.Proofs.LetterCase
import RecordQuery.Proofs.Parallel
import RecordQuery.Proofs.Tiebreaker
import RecordQuery.Proofs.Typing

/-! The spelling of field names. A registry does not tell upper from lower case, so requests whose
names differ in the case of letters alone list the same rows, also where a tiebreaker is added for a
field that the request sorts by in another spelling. -/
namespace RecordQuery

variable {α : Type}

/-- One call that adds a field to a registry. -/
structure Registration (α : Type) where
  name : String
  kind : FieldKind
  read : α → Option Value

def Registration.field (r : Registration α) : Field α := ⟨r.read, some r.kind⟩

namespace Registry

def insertAll (registry : Registry α) (rs : List (Registration α)) : Registry α :=
  rs.foldl (fun registry r => registry.insert r.name r.kind r.read) registry

/-- Of the fields added under names that are the same in lower case the last one is found. -/
theorem get?_insertAll (registry : Registry α) (rs : List (Registration α)) (name : String) :
    (registry.insertAll rs).get? name =
      ((rs.reverse.find? fun r => lowercase name = lowercase r.name).map Registration.field).or
        (registry.get? name) := by
  induction rs generalizing registry with
  | nil => rfl
  | cons r rs ih =>
    have step := ih (registry.insert r.name r.kind r.read)
    rw [get?_insert] at step
    refine step.trans ?_
    rw [List.reverse_cons, List.find?_append, List.find?_singleton]
    -- a later field under the name hides this one, which hides what was there before
    cases rs.reverse.find? fun r => lowercase name = lowercase r.name with
    | some later => rfl
    | none => by_cases same : lowercase name = lowercase r.name <;> simp [same, Registration.field]

theorem schema_respelled (registry : Registry α) {s t : String} (respelled : Respelled s t) :
    registry.schema s = registry.schema t := by
  rw [schema, get?, get?, respelled.lowercase]

end Registry

/-- A last key for a field that there is a key for already makes no difference. -/
theorem compareRecords_redundant {keys : List (BoundKey α)} {key : BoundKey α}
    (there : ∃ k ∈ keys, k.field = key.field) :
    compareRecords (keys ++ [key]) = compareRecords keys := by
  obtain ⟨k, member, same⟩ := there
  funext a b
  -- the last key is asked only of records that are equal under all others
  rw [compareRecords_append]
  cases order : compareRecords keys a b with
  | lt | gt => rfl
  | eq =>
    have tie := tie_of_key (compareRecords_eq_iff.mp order k member)
    rw [same] at tie
    simp only [compareRecords, BoundKey.compare, tie]
    cases key.direction <;> rfl

/-- As far as comparing records goes, the tiebreaker may as well be added always. -/
theorem SortKey.compare_ensureTiebreaker (schema : Schema α) (field : String)
    (direction : Direction) (keys : List SortKey) :
    (bindAll schema (ensureTiebreaker field direction keys)).map compareRecords =
      (bindAll schema (keys ++ [⟨field, direction⟩])).map compareRecords := by
  unfold ensureTiebreaker
  split
  next there =>
    rw [bindAll_append_eq]
    cases found : bindAll schema keys with
    | error e => rfl
    | ok bound =>
      obtain ⟨f, known, key, inside, same⟩ := bound_of_any found there
      rw [bindAll_singleton known]
      have redundant : compareRecords (bound ++ [⟨f, direction⟩]) = compareRecords bound :=
        compareRecords_redundant ⟨key, inside, same⟩
      exact congrArg Except.ok redundant.symm
  next => rfl

inductive SourceError.About (names : String → String → Prop) : SourceError → SourceError → Prop
  | bind {e e' : BindError} : e.About names e' → About names (.bind e) (.bind e')

namespace Selection

variable {names : String → String → Prop} {s t : Selection α}

theorem filter_agree {f g : Filter} (rows : s.rows = t.rows)
    (tests : Agree (BindError.About names) Eq (f.bind s.store.schema) (g.bind t.store.schema)) :
    Agree (SourceError.About names)
      (fun kept kept' => kept.store = s.store ∧ kept'.store = t.store ∧ kept.rows = kept'.rows)
      (s.filter f) (t.filter g) := by
  unfold filter
  generalize f.bind s.store.schema = x at tests
  generalize g.bind t.store.schema = y at tests
  cases tests with
  | error about => exact .error (.bind about)
  | ok same =>
    refine .ok ⟨rfl, rfl, ?_⟩
    rw [rows_push, rows_push, rows, same]

theorem order_agree {keys keys' : List SortKey} (rows : s.rows = t.rows)
    (orders : Agree (BindError.About names) (fun b b' => compareRecords b = compareRecords b')
      (SortKey.bindAll s.store.schema keys) (SortKey.bindAll t.store.schema keys')) :
    Agree (SourceError.About names) (fun sorted sorted' => sorted.rows = sorted'.rows)
      (s.order keys) (t.order keys') := by
  unfold order
  generalize SortKey.bindAll s.store.schema keys = x at orders
  generalize SortKey.bindAll t.store.schema keys' = y at orders
  cases orders with
  | error about => exact .error (.bind about)
  | ok same =>
    refine .ok ?_
    rw [rows_push, rows_push, rows, Step.run, Step.run, same]

theorem filterWith_agree {store : Store α} {filter filter' : Option Filter}
    (filters : Option.Rel (fun f g => Agree (BindError.About names) Eq (f.bind store.schema)
      (g.bind store.schema)) filter filter') :
    Agree (SourceError.About names)
      (fun kept kept' => kept.store = store ∧ kept'.store = store ∧ kept.rows = kept'.rows)
      (filterWith (m := Id) store.select filter).run
      (filterWith (m := Id) store.select filter').run := by
  cases filters with
  | none => exact .ok ⟨rfl, rfl, rfl⟩
  | some tests => exact filter_agree (s := store.select) (t := store.select) rfl tests

theorem applyPlan_run (store : Store α) (plan : Plan) :
    (applyPlan (m := Id) store.select plan).run =
      Except.bind (filterWith (m := Id) store.select plan.filter).run
        fun s => if plan.order.isEmpty then .ok s else s.order plan.order := by
  rw [applyPlan, ExceptT.run_bind]
  cases (filterWith (m := Id) store.select plan.filter).run with
  | error e => rfl
  | ok s => cases plan.order <;> rfl

/-- Plans give the same rows of a store if their filters bind to the same tests and their orders
compare records alike. -/
theorem applyPlan_agree {store : Store α} {plan plan' : Plan}
    (filters : Option.Rel (fun f g => Agree (BindError.About names) Eq (f.bind store.schema)
      (g.bind store.schema)) plan.filter plan'.filter)
    (orders : Agree (BindError.About names) (fun b b' => compareRecords b = compareRecords b')
      (SortKey.bindAll store.schema plan.order) (SortKey.bindAll store.schema plan'.order))
    (empty : plan.order.isEmpty = plan'.order.isEmpty) :
    Agree (SourceError.About names) (fun s t => s.rows = t.rows)
      (applyPlan (m := Id) store.select plan).run (applyPlan (m := Id) store.select plan').run := by
  rw [applyPlan_run, applyPlan_run]
  refine (filterWith_agree filters).bind fun s t kept => ?_
  obtain ⟨here, there, rows⟩ := kept
  rw [empty]
  split
  · exact .ok rows
  · apply order_agree rows
    rwa [here, there]

end Selection

/-- The plan with a last sort key for that field, if there is to be one. -/
def Plan.tied (tie : Option String) (direction : Direction) (plan : Plan) : Plan :=
  match tie with
  | some field => { plan with order := SortKey.ensureTiebreaker field direction plan.order }
  | none => plan

section

variable (registry : Registry α)

theorem Registry.found_respelled (s t : String) (respelled : Respelled s t) :
    Option.Rel Eq (registry.schema s) (registry.schema t) := by
  rw [registry.schema_respelled respelled]
  cases registry.schema t with
  | none => exact .none
  | some f => exact .some rfl

theorem SortKey.bindAll_respelled {keys keys' : List SortKey}
    (respelled : List.Forall₂ (Parallel Respelled) keys keys') :
    Agree (BindError.About Respelled) (fun b b' => compareRecords b = compareRecords b')
      (bindAll registry.schema keys) (bindAll registry.schema keys') := by
  have bound := bindAll_parallel registry.found_respelled respelled
  refine bound.imp (fun _ _ about => about) fun b b' same => ?_
  funext x y
  exact compareRecords_parallel same fun f g equal => by rw [equal]

theorem SortKey.bindAll_tied {keys keys' : List SortKey}
    (respelled : List.Forall₂ (Parallel Respelled) keys keys') {field field' : String}
    (named : Respelled field field') (direction : Direction) :
    Agree (BindError.About Respelled) (fun b b' => compareRecords b = compareRecords b')
      (bindAll registry.schema (ensureTiebreaker field direction keys))
      (bindAll registry.schema (ensureTiebreaker field' direction keys')) := by
  rw [← agree_map, compare_ensureTiebreaker, compare_ensureTiebreaker, agree_map]
  apply bindAll_respelled
  exact List.rel_append respelled (.cons ⟨named, rfl⟩ .nil)

theorem SortKey.ensureTiebreaker_isEmpty (field : String) (direction : Direction)
    (keys : List SortKey) : (ensureTiebreaker field direction keys).isEmpty = false := by
  cases keys with
  | nil => rfl
  | cons => unfold ensureTiebreaker; split <;> rfl

theorem Condition.ownTruth_respelled {c d : Condition} (respelled : c.Parallel Respelled Eq d)
    (x : α) : c.ownTruth registry.schema x = d.ownTruth registry.schema x := by
  have operands : c.operand? = d.operand? := by
    have related := respelled.operand? fun _ _ => Value.sameType_of_eq
    generalize c.operand? = v at related
    generalize d.operand? = w at related
    cases related with
    | none => rfl
    | some equal => exact congrArg some equal
  unfold ownTruth
  rw [respelled.operator_eq, registry.schema_respelled respelled.field, operands]

theorem Filter.bind_respelled {c d : Condition} (respelled : c.Parallel Respelled Eq d)
    (formed : ∀ n ∈ c.nodes, n.WellFormed) (formed' : ∀ n ∈ d.nodes, n.WellFormed)
    (record : Placeholder) :
    Agree (BindError.About Respelled) Eq ((c.filter record).bind registry.schema)
      ((d.filter record).bind registry.schema) := by
  have kinds (s t : String) (named : Respelled s t) :
      Option.Rel (fun f g => f.kind = g.kind) (registry.schema s) (registry.schema t) :=
    rel_imp (registry.found_respelled s t named) fun _ _ same => congrArg Field.kind same
  have bound := bind_parallel (fun _ _ => Value.sameType_of_eq) kinds respelled formed formed' record
  refine bound.imp (fun _ _ about => about) fun s t same => ?_
  funext x
  exact same x x fun n _ n' here => Condition.ownTruth_respelled registry here x

theorem Selection.tied_respelled {r r' : Request} (respelled : r.Parallel Respelled Eq r')
    {limits : Limits} (admitted : r.Admissible limits) (admitted' : r'.Admissible limits)
    {tie tie' : Option String} (ties : Option.Rel Respelled tie tie') (direction : Direction)
    (record : Placeholder) (rows : List α) :
    Agree (SourceError.About Respelled) (fun s t => s.rows = t.rows)
      (applyPlan (m := Id) (Store.select ⟨registry.schema, rows⟩)
        ((r.planned record).tied tie direction)).run
      (applyPlan (m := Id) (Store.select ⟨registry.schema, rows⟩)
        ((r'.planned record).tied tie' direction)).run := by
  have filters : Option.Rel (fun f g : Filter => Agree (BindError.About Respelled) Eq
      (f.bind registry.schema) (g.bind registry.schema)) (r.planned record).filter
      (r'.planned record).filter := by
    have trees := respelled.filter
    have formed := admitted.nodes
    have formed' := admitted'.nodes
    unfold Request.planned
    generalize r.filter = c at trees formed
    generalize r'.filter = d at trees formed'
    cases trees with
    | none => exact .none
    | some same =>
      exact .some (Filter.bind_respelled registry same (formed _ rfl) (formed' _ rfl) record)
  have orders : List.Forall₂ (SortKey.Parallel Respelled) (r.planned record).order
      (r'.planned record).order := by
    simp only [Request.planned, List.forall₂_map_left_iff, List.forall₂_map_right_iff]
    exact respelled.sort.imp fun e e' same => ⟨same.1, by rw [SortEntry.key, same.2, SortEntry.key]⟩
  cases ties with
  | none =>
    exact applyPlan_agree filters (SortKey.bindAll_respelled registry orders)
      (isEmpty_parallel orders)
  | some named =>
    refine applyPlan_agree filters (SortKey.bindAll_tied registry orders named direction) ?_
    exact (SortKey.ensureTiebreaker_isEmpty _ _ _).trans
      (SortKey.ensureTiebreaker_isEmpty _ _ _).symm

end

/-- Over a registry, in which the last of the fields added under a name counts, whatever the case of
its letters, requests and tiebreakers in which names stand in other cases have plans together, fail
together or list the same rows. -/
theorem respelled_alike {r r' : Request} (respelled : r.Parallel Respelled Eq r')
    {tie tie' : Option String} (ties : Option.Rel Respelled tie tie') (direction : Direction)
    (limits : Limits) (record : Placeholder) (rs : List (Registration α)) (rows : List α) :
    let registry := Registry.empty.insertAll rs
    let store : Store α := ⟨registry.schema, rows⟩
    (∀ name, registry.get? name =
      (rs.reverse.find? fun added => lowercase name = lowercase added.name).map
        Registration.field) ∧
    Agree (RequestError.About Respelled)
      (fun plan plan' =>
        Agree (SourceError.About Respelled) (fun s t => s.rows = t.rows)
          (applyPlan (m := Id) store.select (plan.tied tie direction)).run
          (applyPlan (m := Id) store.select (plan'.tied tie' direction)).run)
      (r.plan limits record) (r'.plan limits record) := by
  intro registry store
  constructor
  · intro name
    exact (Registry.get?_insertAll .empty rs name).trans Option.or_none
  · rw [Request.plan_eq, Request.plan_eq]
    have faults := Request.fault_parallel (fun _ _ => Value.sameType_of_eq)
      (fun _ _ => Respelled.isBlankText) respelled limits
    refine verdict_agree faults fun sound sound' => ?_
    rw [Request.fault_eq_none] at sound sound'
    exact Selection.tied_respelled registry respelled sound sound' ties direction record rows

/-- The identifier is added twice. The one request names it as Id and is given a second key for iD,
the other one has that key already. -/
theorem respelled_alike_people :
    let rs : List (Registration (Int × String)) := [⟨"id", .string, fun _ => none⟩,
      ⟨"Name", .string, fun p => some (.text p.2)⟩, ⟨"ID", .i64, fun p => some (.ofInt p.1)⟩]
    let store : Store (Int × String) := ⟨(Registry.empty.insertAll rs).schema,
      [(1, "Ann"), (2, "Bob"), (3, "Cy")]⟩
    let named (field : String) : Condition := .node field "neq" (some (.text "Bob")) none []
    let r : Request := ⟨[⟨"Id", "desc"⟩], some (named "NAME")⟩
    let r' : Request := ⟨[⟨"iD", "desc"⟩], some (named "name")⟩
    ∃ plan plan' s t, r.plan .standard ⟨0⟩ = .ok plan ∧ r'.plan .standard ⟨0⟩ = .ok plan' ∧
      (plan.tied (some "iD") .ascending).order = [⟨"Id", .descending⟩, ⟨"iD", .ascending⟩] ∧
      (plan'.tied (some "iD") .ascending).order = [⟨"iD", .descending⟩] ∧
      (applyPlan (m := Id) store.select (plan.tied (some "iD") .ascending)).run = .ok s ∧
      (applyPlan (m := Id) store.select (plan'.tied (some "iD") .ascending)).run = .ok t ∧
      s.rows = t.rows ∧ t.rows = [(3, "Cy"), (1, "Ann")] := by
  intro rs store named r r'
  have respelled : r.Parallel Respelled Eq r' := by
    refine ⟨.cons ⟨by decide, rfl⟩ .nil, .some ?_⟩
    exact .node (by decide) (.some rfl) .nil
  obtain ⟨-, agree⟩ := respelled_alike respelled (.some (rfl : Respelled "iD" "iD")) .ascending
    .standard ⟨0⟩ rs store.rows
  have planned : r.plan .standard ⟨0⟩ = .ok (r.planned ⟨0⟩) := rfl
  have planned' : r'.plan .standard ⟨0⟩ = .ok (r'.planned ⟨0⟩) := rfl
  rw [planned, planned'] at agree
  obtain ⟨s, found⟩ : ∃ s, (applyPlan (m := Id) store.select
      ((r.planned ⟨0⟩).tied (some "iD") .ascending)).run = .ok s := ⟨_, rfl⟩
  obtain ⟨t, found'⟩ : ∃ t, (applyPlan (m := Id) store.select
      ((r'.planned ⟨0⟩).tied (some "iD") .ascending)).run = .ok t := ⟨_, rfl⟩
  have listed := agree.of_ok
  rw [found, found'] at listed
  refine ⟨_, _, s, t, planned, planned', rfl, rfl, found, found', listed.of_ok, ?_⟩
  cases found'
  decide

end RecordQuery
