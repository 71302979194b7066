import RecordQuery.Proofs.Compile
import RecordQuery.Queryable

/-! Which requests have a plan under given limits, which plan they have, and what is said of the
others. -/
namespace RecordQuery

namespace SortEntry

def fieldFault (entry : SortEntry) : Option RequestError :=
  if trimBlank entry.field.toList = [] then some .invalidSortField else none

def directionFault (entry : SortEntry) : Option RequestError :=
  if entry.direction = "asc" ∨ entry.direction = "desc" then none
  else some (.invalidSortDirection entry.direction)

/-- The first thing wrong with a sort entry. -/
def fault (entry : SortEntry) : Option RequestError := entry.fieldFault.or entry.directionFault

/-- An entry that nothing is wrong with. -/
structure WellFormed (entry : SortEntry) : Prop where
  field : trimBlank entry.field.toList ≠ []
  direction : entry.direction = "asc" ∨ entry.direction = "desc"

/-- The sort key of an entry that nothing is wrong with. -/
def key (entry : SortEntry) : SortKey :=
  ⟨entry.field, (Direction.ofKeyword? entry.direction).getD .ascending⟩

theorem fault_eq_none (entry : SortEntry) : entry.fault = none ↔ entry.WellFormed := by
  rw [fault, Option.or_eq_none_iff]
  constructor
  · rintro ⟨field, direction⟩
    exact ⟨by simpa [fieldFault] using field,
      by simpa [directionFault, or_iff_not_imp_left] using direction⟩
  · rintro ⟨field, direction⟩
    exact ⟨if_neg field, if_pos direction⟩

theorem directionOf_eq (entry : SortEntry) :
    SortKey.directionOf entry.direction = verdict entry.directionFault entry.key.direction := by
  unfold SortKey.directionOf directionFault key
  by_cases asc : entry.direction = "asc"
  · simp [asc, Direction.ofKeyword?]
  by_cases desc : entry.direction = "desc"
  · simp [desc, Direction.ofKeyword?]
  have unknown : Direction.ofKeyword? entry.direction = none := by
    unfold Direction.ofKeyword?
    split <;> simp_all
  simp [asc, desc, unknown]

theorem ofEntry_eq (entry : SortEntry) :
    SortKey.ofEntry entry = verdict entry.fault entry.key := by
  rw [SortKey.ofEntry, fault, fieldFault]
  simp only [trimBlank_eq_nil]
  refine verdict_guard fun _ => ?_
  rw [directionOf_eq]
  exact verdict_bind_pure _ _ _

end SortEntry

namespace Request

def sortCountFault (limits : Limits) (request : Request) : Option RequestError :=
  if limits.maxSortFields.toNat < request.sort.length then
    some (.tooManySortFields limits.maxSortFields)
  else none

/-- The first thing wrong with a request: the number of sort entries, the first bad one of them, or
the first bad node in preorder. -/
def fault (limits : Limits) (request : Request) : Option RequestError :=
  (request.sortCountFault limits).or <|
    (request.sort.findSome? SortEntry.fault).or <|
      request.filter.bind fun root => Condition.firstFault limits 0 (root.places 1)

/-- A request that nothing is wrong with. -/
structure Admissible (limits : Limits) (request : Request) : Prop where
  sortCount : request.sort.length ≤ limits.maxSortFields.toNat
  entries : ∀ entry ∈ request.sort, entry.WellFormed
  depth : ∀ root, request.filter = some root → root.depth ≤ limits.maxDepth.toNat
  count : ∀ root, request.filter = some root → root.nodes.length ≤ limits.maxConditions.toNat
  nodes : ∀ root, request.filter = some root → ∀ c ∈ root.nodes, c.WellFormed

/-- The plan of a request that nothing is wrong with. -/
def planned (record : Placeholder) (request : Request) : Plan :=
  ⟨request.filter.map (Condition.filter record), request.sort.map SortEntry.key⟩

theorem sortKeys_eq (limits : Limits) (request : Request) :
    SortKey.ofEntries limits request.sort =
      verdict ((request.sortCountFault limits).or (request.sort.findSome? SortEntry.fault))
        (request.sort.map SortEntry.key) := by
  have count : limits.checkSortFields request.sort.length =
      verdict (request.sortCountFault limits) () := by
    unfold Limits.checkSortFields sortCountFault
    split <;> rfl
  rw [SortKey.ofEntries, count]
  refine verdict_bind fun _ => ?_
  rw [← mapM_verdict]
  exact congrArg (List.mapM · request.sort) (funext SortEntry.ofEntry_eq)

theorem filter_eq (limits : Limits) (record : Placeholder) (request : Request) :
    request.filter.mapM (Filter.ofCondition limits record) =
      verdict (request.filter.bind fun root => Condition.firstFault limits 0 (root.places 1))
        (request.filter.map (Condition.filter record)) := by
  cases request.filter with
  | none => rfl
  | some root =>
    rw [Option.mapM_some, Filter.ofCondition_eq]
    exact verdict_bind_pure _ _ _

theorem plan_eq (limits : Limits) (record : Placeholder) (request : Request) :
    request.plan limits record = verdict (request.fault limits) (request.planned record) := by
  rw [plan, sortKeys_eq, fault, ← Option.or_assoc]
  refine verdict_bind fun _ => ?_
  rw [filter_eq]
  exact verdict_bind_pure _ _ _

theorem fault_eq_none (limits : Limits) (request : Request) :
    request.fault limits = none ↔ request.Admissible limits := by
  have sortCount : request.sortCountFault limits = none ↔
      request.sort.length ≤ limits.maxSortFields.toNat := by
    simp [sortCountFault]
  have entries : request.sort.findSome? SortEntry.fault = none ↔
      ∀ entry ∈ request.sort, entry.WellFormed := by
    simp only [List.findSome?_eq_none_iff, SortEntry.fault_eq_none]
  rw [fault, Option.or_eq_none_iff, Option.or_eq_none_iff, sortCount, entries,
    Option.bind_eq_none_iff]
  constructor
  · rintro ⟨count, formed, tree⟩
    have admitted := fun root given =>
      (Condition.tree_fault_eq_none limits root).mp (tree root given)
    exact ⟨count, formed, fun root given => (admitted root given).1,
      fun root given => (admitted root given).2.1, fun root given => (admitted root given).2.2⟩
  · rintro ⟨count, formed, depth, size, nodes⟩
    exact ⟨count, formed, fun root given => (Condition.tree_fault_eq_none limits root).mpr
      ⟨depth root given, size root given, nodes root given⟩⟩

/-- What is admissible under any limits is so under the largest ones. -/
theorem admissible_unbounded {limits : Limits} {request : Request}
    (admitted : request.Admissible limits) : request.Admissible .unbounded := by
  have largest (n : UInt64) : n.toNat ≤ (UInt64.ofNat maxUInt64).toNat := by
    have := n.toNat_lt
    have : (UInt64.ofNat maxUInt64).toNat = maxUInt64 := by decide
    unfold maxUInt64 at *
    omega
  refine ⟨?_, admitted.entries, fun root given => ?_, fun root given => ?_, admitted.nodes⟩
  · exact admitted.sortCount.trans (largest _)
  · exact (admitted.depth root given).trans (largest _)
  · exact (admitted.count root given).trans (largest _)

end Request

/-- The same filter about another placeholder. -/
def Filter.about (record : Placeholder) (f : Filter) : Filter :=
  ⟨⟨record, f.lambda.body.replace f.lambda.record record⟩, f.slots⟩

/-- The same plan about another placeholder. -/
def Plan.about (record : Placeholder) (plan : Plan) : Plan :=
  ⟨plan.filter.map (Filter.about record), plan.order⟩

theorem planned_about (record other : Placeholder) (request : Request) :
    (request.planned record).about other = request.planned other := by
  have filter (root : Condition) : (root.filter record).about other = root.filter other := by
    simp only [Condition.filter, Filter.about, Condition.formula_replace]
  cases h : request.filter <;> simp [Request.planned, Plan.about, h, filter]

/-- A request has a plan exactly if nothing is wrong with it; the plan is that under the largest
limits, about any placeholder; and a request without a plan fails with its first fault. -/
theorem plan_exact (limits : Limits) (record : Placeholder) (request : Request) :
    ((∃ plan, request.plan limits record = .ok plan) ↔ request.Admissible limits) ∧
    (∀ plan, request.plan limits record = .ok plan →
      ∀ other, request.plan .unbounded other = .ok (plan.about other)) ∧
    ∀ e, request.plan limits record = .error e ↔ request.fault limits = some e := by
  rw [Request.plan_eq]
  refine ⟨⟨?_, ?_⟩, ?_, fun e => verdict_eq_error⟩
  · rintro ⟨plan, made⟩
    exact (Request.fault_eq_none limits request).mp (verdict_eq_ok.mp made).1
  · intro admitted
    exact ⟨_, verdict_eq_ok.mpr ⟨(Request.fault_eq_none limits request).mpr admitted, rfl⟩⟩
  · intro plan made other
    obtain ⟨sound, rfl⟩ := verdict_eq_ok.mp made
    have admitted := (Request.fault_eq_none limits request).mp sound
    rw [Request.plan_eq, planned_about, verdict_eq_ok]
    exact ⟨(Request.fault_eq_none _ _).mpr (Request.admissible_unbounded admitted), rfl⟩

end RecordQuery
