import RecordQuery.Proofs.Binding
import RecordQuery.Proofs.OrderStep
import RecordQuery.Repository

/-! The records that a repository over a store gives for a request. They are the rows that match the
filter of the request and another one, in order. It makes no difference which of the two filters is
applied before the rows are put in order, and a page is a stretch of the whole list. -/
namespace RecordQuery

variable {α : Type} {m : Type → Type} [Monad m]

/-- The test of a filter; no filter lets every record through. -/
def bindTest (schema : Schema α) : Option Filter → Except BindError (α → Truth)
  | some f => f.bind schema
  | none => .ok fun _ => .yes

def firstRows (size : Option UInt64) (rows : List α) : List α :=
  match size with
  | some n => rows.take n.toNat
  | none => rows

def Store.repository (store : Store α) (limits : Limits) : Repository m (Selection α) :=
  ⟨pure store.select, limits⟩

theorem filter_and (p q : α → Bool) (rows : List α) :
    (rows.filter p).filter q = rows.filter fun x => p x && q x := by
  simp only [List.filter_filter, Bool.and_comm]

namespace Selection

variable {s : Selection α} {plan : Plan} {keys : List (BoundKey α)} {test : α → Truth}

theorem filterWith_eq {filter : Option Filter} (bound : bindTest s.store.schema filter = .ok test) :
    ∃ next : Selection α, (filterWith s filter : ExceptT SourceError m (Selection α)) = pure next ∧
      next.store = s.store ∧ next.rows = s.rows.filter (isMatch test) := by
  cases filter with
  | none =>
    obtain rfl := Except.ok.inj bound
    refine ⟨s, rfl, rfl, (List.filter_eq_self.mpr fun _ _ => ?_).symm⟩
    rfl
  | some f =>
    replace bound : f.bind s.store.schema = .ok test := bound
    refine ⟨s.push (.filter test), ?_, rfl, s.rows_push _⟩
    change ExceptT.mk (pure (s.filter f)) = pure (s.push (.filter test))
    rw [filter_eq bound]
    rfl

/-- Rows that a plan has filtered and ordered are in order also where it asks for no order. -/
theorem applyPlan_eq [LawfulMonad m] (filtered : bindTest s.store.schema plan.filter = .ok test)
    (ordered : SortKey.bindAll s.store.schema plan.order = .ok keys)
    (typed : OneTyped keys s.rows) :
    ∃ next : Selection α, (applyPlan s plan : ExceptT SourceError m (Selection α)) = pure next ∧
      next.store = s.store ∧
      Arranged (compareRecords keys) (s.rows.filter (isMatch test)) next.rows := by
  obtain ⟨kept, narrowed, store, rows⟩ := filterWith_eq (m := m) filtered
  rw [applyPlan, narrowed, pure_bind, ← rows]
  rcases empty : plan.order with _ | ⟨key, rest⟩
  · rw [empty] at ordered
    obtain rfl : [] = keys := Except.ok.inj ordered
    exact ⟨kept, rfl, store, .of_sorted (List.pairwise_of_forall fun _ _ => nofun)⟩
  · rw [← empty]
    refine ⟨kept.push (.order keys), ?_, store, ?_⟩
    · rw [if_neg (by rw [empty]; exact Bool.false_ne_true)]
      change ExceptT.mk (pure (kept.order plan.order)) = pure (kept.push (.order keys))
      rw [order_eq (store ▸ ordered)]
      rfl
    · rw [rows_push]
      refine sort_arranged (typed.subset ?_)
      rw [rows]
      exact List.filter_subset_self _

theorem take_rows (size : Option UInt64) :
    ∃ next : Selection α, (takeUpTo s size : m (Selection α)) = pure next ∧
      next.rows = firstRows size s.rows := by
  cases size with
  | none => exact ⟨s, rfl, rfl⟩
  | some n => exact ⟨s.push (.take n), rfl, s.rows_push _⟩

/-- Page `index` of a selection is there if its index and its size are not zero and a word can tell
how many rows come before it, and then it shows the rows from there on. -/
theorem paginate_oneBased (s : Selection α) (index size : UInt64) :
    (∀ page, (paginate (m := Id) s (.oneBased index size)).run = .ok page →
      page.items = s.rows.extract ((index.toNat - 1) * size.toNat) (index.toNat * size.toNat)) ∧
    ((∃ page, (paginate (m := Id) s (.oneBased index size)).run = .ok page) ↔
      1 ≤ index.toNat ∧ 1 ≤ size.toNat ∧ (index.toNat - 1) * size.toNat ≤ maxUInt64) := by
  have exact (n : UInt64) : (PageRequest.oneBased index size).offset = .ok n ↔
      1 ≤ index.toNat ∧ size.toNat ≠ 0 ∧ (index.toNat - 1) * size.toNat = n.toNat :=
    PageRequest.offset_eq_ok
  rw [paginate_eq]
  cases offset : (PageRequest.oneBased index size).offset with
  | error e =>
    refine ⟨nofun, nofun, fun ⟨first, positive, fits⟩ => ?_⟩
    have there := (exact (.ofNat ((index.toNat - 1) * size.toNat))).mpr
      ⟨first, by omega, (toNat_ofNat_of_le fits).symm⟩
    rw [offset] at there
    cases there
  | ok n =>
    obtain ⟨first, positive, before⟩ := (exact n).mp offset
    refine ⟨fun page shown => ?_, fun _ => ⟨first, by omega, before ▸ toNat_le_max n⟩,
      fun _ => ⟨_, rfl⟩⟩
    obtain rfl := Except.ok.inj shown
    have long : index.toNat * size.toNat - (index.toNat - 1) * size.toNat = size.toNat := by
      rw [← Nat.sub_mul, Nat.sub_sub_self first, Nat.one_mul]
    rw [List.extract_eq_take_drop, long, before]
    rfl

end Selection

section

variable {store : Store α} {limits : Limits} {request : Request} {extra : Option Filter}
variable {plan : Plan} {wanted also : α → Truth} {keys : List (BoundKey α)}

/-- A request and another filter give a selection of the rows that match both, put in order. -/
theorem requested_eq [LawfulMonad m] (planned : request.plan limits default = .ok plan)
    (filtered : bindTest store.schema plan.filter = .ok wanted)
    (ordered : SortKey.bindAll store.schema plan.order = .ok keys)
    (narrowed : bindTest store.schema extra = .ok also) (typed : OneTyped keys store.rows) :
    ∃ s : Selection α, ((store.repository limits).requested request extra :
        ExceptT FetchError m (Selection α)) = pure s ∧
      Arranged (compareRecords keys)
        (store.rows.filter fun x => isMatch wanted x && isMatch also x) s.rows := by
  obtain ⟨sorted, applied, (same : sorted.store = store), arranged⟩ :=
    Selection.applyPlan_eq (s := store.select) (m := m) filtered ordered typed
  rw [← same] at narrowed
  obtain ⟨kept, second, -, rows⟩ := Selection.filterWith_eq (m := m) narrowed
  refine ⟨kept, ?_, ?_⟩
  · rw [Repository.requested, Store.repository]
    simp only [planned, liftM_pure, pure_bind, applied, fromSource_pure, second]
  · rw [rows, ← filter_and]
    exact arranged.filter _

theorem getRequested_eq [LawfulMonad m] {s : Selection α} {repo : Repository m (Selection α)}
    (selected : (repo.requested request extra : ExceptT FetchError m (Selection α)) = pure s)
    (size : Option UInt64) :
    (repo.getRequested request extra size : ExceptT FetchError m (List α)) =
      pure (firstRows size s.rows) := by
  obtain ⟨cut, taken, rows⟩ := s.take_rows (m := m) size
  have listed : (fromSource (Queryable.list cut) : ExceptT FetchError m (List α)) = pure cut.rows :=
    fromSource_pure _
  rw [Repository.getRequested, selected, pure_bind, taken, liftM_pure, pure_bind, listed, rows]

theorem getRequestedPage_eq [LawfulMonad m] {s : Selection α} {repo : Repository m (Selection α)}
    (selected : (repo.requested request extra : ExceptT FetchError m (Selection α)) = pure s)
    (index size : UInt64) :
    (repo.getRequestedPage request extra index size : ExceptT FetchError m (Page α)) =
      paginate s (.oneBased index size) := by
  apply ExceptT.ext
  rw [Repository.getRequestedPage, selected, Selection.paginate_eq, pageOffset]
  -- the offset is looked at twice
  cases offset : (PageRequest.oneBased index size).offset with
  | ok n => rw [pure_bind, pure_bind, Selection.paginate_eq, offset]
  | error e => simp

end

/-- What a request lists over a store whose values under each sort key are of one type, where both
its filter and the other one fit the records: the rows that match both, arranged by the keys, and
only the first of them if a size is given. Applying the other filter after the rows are put in order
is as good as applying it before, and the pages show the stretches of the whole list. -/
theorem requested_exact {store : Store α} {limits : Limits} {request : Request}
    {extra : Option Filter} {plan : Plan} {wanted also : α → Truth} {keys : List (BoundKey α)}
    (planned : request.plan limits default = .ok plan)
    (filtered : bindTest store.schema plan.filter = .ok wanted)
    (ordered : SortKey.bindAll store.schema plan.order = .ok keys)
    (narrowed : bindTest store.schema extra = .ok also) (typed : OneTyped keys store.rows) :
    ∃ rows,
      (∀ other, Arranged (compareRecords keys)
        (store.rows.filter fun x => isMatch wanted x && isMatch also x) other ↔ other = rows) ∧
      (∀ size, ((store.repository (m := Id) limits).getRequested request extra size).run =
        .ok (firstRows size rows)) ∧
      (⟨store, [.filter wanted, .order keys, .filter also]⟩ : Selection α).rows = rows ∧
      (⟨store, [.filter wanted, .filter also, .order keys]⟩ : Selection α).rows = rows ∧
      ∀ index size,
        (∀ page,
          ((store.repository (m := Id) limits).getRequestedPage request extra index size).run =
            .ok page →
          page.items = rows.extract ((index.toNat - 1) * size.toNat) (index.toNat * size.toNat)) ∧
        ((∃ page,
          ((store.repository (m := Id) limits).getRequestedPage request extra index size).run =
            .ok page) ↔
          1 ≤ index.toNat ∧ 1 ≤ size.toNat ∧ (index.toNat - 1) * size.toNat ≤ maxUInt64) := by
  obtain ⟨s, selected, arranged⟩ := requested_eq (m := Id) planned filtered ordered narrowed typed
  refine ⟨s.rows, fun other => ⟨fun found => found.unique arranged, fun same => same ▸ arranged⟩,
    fun size => ?_, ?_, ?_, fun index size => ?_⟩
  · rw [getRequested_eq selected]
    rfl
  -- as the steps are taken: a part of an arrangement is the arrangement of the part
  · rw [← filter_and] at arranged
    have sorted := sort_arranged (typed.subset (List.filter_subset_self (p := isMatch wanted) _))
    exact (sorted.filter _).unique arranged
  · rw [← filter_and] at arranged
    refine (sort_arranged (typed.subset ?_)).unique arranged
    exact List.Subset.trans (List.filter_subset_self _) (List.filter_subset_self _)
  · rw [getRequestedPage_eq selected]
    exact s.paginate_oneBased index size

def byAge : BoundKey (String × Option Int) :=
  ⟨⟨fun p => p.2.map .ofInt, some .i64⟩, .ascending⟩

theorem byAge_typed (rows : List (String × Option Int)) : OneTyped [byAge] rows := by
  intro key only x _ y _
  obtain rfl := List.mem_singleton.mp only
  obtain ⟨-, _ | a⟩ := x
  · exact nofun
  obtain ⟨-, _ | b⟩ := y
  · exact fun _ _ _ => nofun
  · exact alike_some.mpr (.number _ _)

def personTruth (f : Filter) (person : String × Option Int) : Truth :=
  match f.bind personSchema with
  | .ok test => test person
  | .error _ => .unknown

theorem requested_exact_people :
    let store : Store (String × Option Int) := ⟨personSchema, [("Eve", some 41), ("Bob", some 30),
      ("Ann", none), ("Cleo", some 30), ("Dan", some 10), ("Amy", some 30)]⟩
    let request : Request := ⟨[⟨"age", "asc"⟩], some nestedFilter⟩
    let extra : Filter := .ofLambda ⟨⟨0⟩, FieldRef.compare ⟨⟨0⟩, "name"⟩ .ne (.text "Bob")⟩
    let repo : Repository Id (Selection (String × Option Int)) := store.repository .standard
    (repo.getRequested request (some extra) (some 3)).run =
        .ok [("Ann", none), ("Cleo", some 30), ("Amy", some 30)] ∧
      ∃ page, (repo.getRequestedPage request (some extra) 2 2).run = .ok page ∧
        page.items = [("Amy", some 30), ("Eve", some 41)] := by
  intro store request extra repo
  have planned : request.plan .standard default = .ok (request.planned default) := rfl
  have filtered : bindTest store.schema (request.planned default).filter =
      .ok (personTruth (nestedFilter.filter default)) := rfl
  have ordered : SortKey.bindAll store.schema (request.planned default).order = .ok [byAge] := rfl
  have narrowed : bindTest store.schema (some extra) = .ok (personTruth extra) := rfl
  obtain ⟨rows, -, listed, sorted, -, paged⟩ :=
    requested_exact planned filtered ordered narrowed (byAge_typed store.rows)
  obtain rfl : [("Ann", none), ("Cleo", some 30), ("Amy", some 30), ("Eve", some 41)] = rows := by
    rw [← sorted]
    decide
  refine ⟨listed (some 3), ?_⟩
  obtain ⟨shown, there⟩ := paged 2 2
  obtain ⟨page, found⟩ := there.mpr (by decide)
  exact ⟨page, found, shown page found⟩

end RecordQuery
