import RecordQuery.Proofs.Fragile
import RecordQuery.Proofs.Requested

/-! What becomes of a request for a page. The arguments, the request, its filter, its sort keys and
the other filter are looked at in this order, and the first fault decides, whatever rows there are.
Where there is none a page is given, unless the rows are many and cannot be sorted by the keys. -/
namespace RecordQuery

variable {α β γ ε : Type} {m : Type → Type} [Monad m]

def faultOf : Except ε β → Option ε
  | .ok _ => none
  | .error e => some e

/-- What is wrong with the index and the size of a page where the first index is 1. -/
def argumentFault (index size : UInt64) : Option PageArgumentError :=
  if index = 0 then some (.originPastIndex 1 0)
  else if size = 0 then some .zeroSize
  else if (index.toNat - 1) * size.toNat ≤ maxUInt64 then none
  else some .offsetOverflow

def SortKey.fault (schema : Schema α) (key : SortKey) : Option BindError :=
  match schema key.field with
  | some _ => none
  | none => some (.unknownField key.field)

/-- Why the filter of a plan, a sort key of it or the other filter does not fit the records. -/
def Plan.fault (schema : Schema α) (extra : Option Filter) (plan : Plan) : Option BindError :=
  (faultOf (bindTest schema plan.filter)).or <|
    (plan.order.findSome? (SortKey.fault schema)).or (faultOf (bindTest schema extra))

def requestFault (schema : Schema α) (limits : Limits) (request : Request)
    (extra : Option Filter) : Option FetchError :=
  match request.plan limits default with
  | .error e => some (.request e)
  | .ok plan => (plan.fault schema extra).map (.source ∘ .bind)

/-- Why there is no such page for a request. -/
def pageFault (schema : Schema α) (limits : Limits) (request : Request) (extra : Option Filter)
    (index size : UInt64) : Option FetchError :=
  ((argumentFault index size).map .argument).or (requestFault schema limits request extra)

/-- An action that fails with the fault if there is one, and else gives a result of that kind. -/
def Settles (fault : Option ε) (good : β → Prop) (action : ExceptT ε m β) : Prop :=
  match fault with
  | some e => action = throw e
  | none => ∃ b, action = pure b ∧ good b

theorem offset_fault (index size : UInt64) :
    faultOf (PageRequest.oneBased index size).offset = argumentFault index size := by
  unfold PageRequest.offset PageRequest.oneBased argumentFault
  by_cases zero : index = 0
  · subst zero
    rfl
  have positive : index.toNat ≠ 0 := fun none => zero (UInt64.toNat_inj.mp none)
  have first : 1 ≤ index := UInt64.le_iff_toNat_le.mpr (Nat.one_le_iff_ne_zero.mpr positive)
  have back : (index - 1).toNat = index.toNat - 1 := UInt64.toNat_sub_of_le _ _ first
  by_cases empty : size = 0
  · simp [UInt64.not_lt.mpr first, zero, empty, faultOf]
  by_cases fits : (index.toNat - 1) * size.toNat ≤ maxUInt64
  · simp [UInt64.not_lt.mpr first, zero, empty, checkedMul, back, fits, faultOf]
  · simp [UInt64.not_lt.mpr first, zero, empty, checkedMul, back, fits, faultOf]

theorem SortKey.bindAll_fault (schema : Schema α) (keys : List SortKey) :
    faultOf (bindAll schema keys) = keys.findSome? (fault schema) := by
  unfold bindAll
  induction keys with
  | nil => rfl
  | cons key rest ih =>
    rw [List.mapM_cons, List.findSome?_cons, ← ih, bind, fault]
    cases schema key.field with
    | none => rfl
    | some f => cases rest.mapM (bind schema) <;> rfl

theorem settles_pageOffset (request : PageRequest) :
    Settles ((faultOf request.offset).map .argument) (fun n => request.offset = .ok n)
      (pageOffset request : ExceptT FetchError m UInt64) := by
  unfold pageOffset
  cases request.offset with
  | error e => rfl
  | ok n => exact ⟨n, rfl, rfl⟩

/-- Rows that a sort by the keys does not give up on: they are few, or their values under each key
are of one type. -/
def Sortable (schema : Schema α) (order : List SortKey) (rows : List α) : Prop :=
  rows.length ≤ insertionLimit ∨
    ∀ keys, SortKey.bindAll schema order = .ok keys → OneTyped keys rows

theorem Sortable.subperm {schema : Schema α} {order : List SortKey} {rows kept : List α}
    (sortable : Sortable schema order rows) (part : kept.Subperm rows) :
    Sortable schema order kept :=
  sortable.imp part.length_le.trans fun typed keys bound => (typed keys bound).subset part.subset

/-- A selection made from another one over the same store. Where that one can be read and its rows
can be sorted by the keys, this one can be read. -/
structure Narrows (order : List SortKey) (s t : Selection α) : Prop where
  store : t.store = s.store
  reads : ∀ rows, s.rows? = some rows → Sortable s.store.schema order rows →
    ∃ kept, t.rows? = some kept ∧ kept.Subperm rows

namespace Narrows

variable {order : List SortKey} {s t u : Selection α}

theorem refl (order : List SortKey) (s : Selection α) : Narrows order s s :=
  ⟨rfl, fun rows read _ => ⟨rows, read, .refl rows⟩⟩

theorem trans (first : Narrows order s t) (second : Narrows order t u) : Narrows order s u where
  store := second.store.trans first.store
  reads := by
    intro rows read sortable
    obtain ⟨kept, here, part⟩ := first.reads rows read sortable
    have still : Sortable t.store.schema order kept := first.store ▸ sortable.subperm part
    obtain ⟨left, there, less⟩ := second.reads kept here still
    exact ⟨left, there, less.trans part⟩

theorem filter (order : List SortKey) (s : Selection α) (test : α → Truth) :
    Narrows order s (s.push (.filter test)) where
  store := rfl
  reads := by
    intro rows read _
    refine ⟨rows.filter (isMatch test), ?_, List.filter_sublist.subperm⟩
    rw [Selection.rows?_push, read]
    rfl

theorem sort {keys : List (BoundKey α)} (bound : SortKey.bindAll s.store.schema order = .ok keys) :
    Narrows order s (s.push (.order keys)) where
  store := rfl
  reads := by
    intro rows read sortable
    refine ⟨stableSort (compareRecords keys) rows, ?_, (stableSort_perm rows).subperm⟩
    rw [Selection.rows?_push, read]
    exact sort?_eq_some.mpr
      ⟨sortable.imp_right fun typed => orders_of_oneTyped (typed keys bound), rfl⟩

end Narrows

section

variable [LawfulMonad m]

theorem throw_bind (e : ε) (next : β → ExceptT ε m γ) :
    (throw e >>= next : ExceptT ε m γ) = throw e := by
  apply ExceptT.ext
  simp

theorem Settles.bind {fault later : Option ε} {good : β → Prop} {fine : γ → Prop}
    {action : ExceptT ε m β} {next : β → ExceptT ε m γ} (first : Settles fault good action)
    (rest : ∀ b, good b → Settles later fine (next b)) :
    Settles (fault.or later) fine (action >>= next) := by
  cases fault with
  | some e =>
    have failed : action = throw e := first
    rw [failed, throw_bind]
    rfl
  | none =>
    obtain ⟨b, made, held⟩ := first
    simp only [made, pure_bind, Option.none_or]
    exact rest b held

omit [LawfulMonad m] in
theorem Settles.imp {fault : Option ε} {good fine : β → Prop} {action : ExceptT ε m β}
    (settles : Settles fault good action) (weaker : ∀ b, good b → fine b) :
    Settles fault fine action := by
  cases fault with
  | some e => exact settles
  | none =>
    obtain ⟨b, made, held⟩ := settles
    exact ⟨b, made, weaker b held⟩

namespace Fragile

variable (s : Fragile α) (order : List SortKey)

theorem settles_push (outcome : Except BindError β) (step : β → Step α)
    {made : Except SourceError (Selection α)}
    (pushed : made = match outcome with
      | .ok b => .ok (s.selection.push (step b))
      | .error e => .error (.bind e))
    (narrows : ∀ b, outcome = .ok b → Narrows order s.selection (s.selection.push (step b))) :
    Settles ((faultOf outcome).map (.source ∘ .bind))
      (fun t => Narrows order s.selection t.selection)
      (fromSource (.mk (pure (made.map .mk))) : ExceptT FetchError (OptionT m) (Fragile α)) := by
  subst pushed
  cases outcome with
  | error e =>
    apply ExceptT.ext
    simp [fromSource, Except.mapError, Except.map]
  | ok b => exact ⟨⟨s.selection.push (step b)⟩, fromSource_pure _, narrows b rfl⟩

theorem settles_filterWith (filter : Option Filter) :
    Settles ((faultOf (bindTest s.selection.store.schema filter)).map (.source ∘ .bind))
      (fun t => Narrows order s.selection t.selection)
      (fromSource (filterWith s filter) : ExceptT FetchError (OptionT m) (Fragile α)) := by
  cases filter with
  | none => exact ⟨s, fromSource_pure s, .refl order s.selection⟩
  | some f =>
    refine s.settles_push order (f.bind s.selection.store.schema) .filter ?_
      fun test _ => .filter order s.selection test
    unfold Selection.filter
    cases f.bind s.selection.store.schema <;> rfl

theorem settles_order :
    Settles ((order.findSome? (SortKey.fault s.selection.store.schema)).map (.source ∘ .bind))
      (fun t => Narrows order s.selection t.selection)
      (fromSource (Queryable.order s order) : ExceptT FetchError (OptionT m) (Fragile α)) := by
  rw [← SortKey.bindAll_fault]
  refine s.settles_push order (SortKey.bindAll s.selection.store.schema order) .order ?_
    fun keys bound => .sort bound
  unfold Selection.order
  cases SortKey.bindAll s.selection.store.schema order <;> rfl

theorem settles_applyPlan (plan : Plan) :
    Settles (((faultOf (bindTest s.selection.store.schema plan.filter)).or
        (plan.order.findSome? (SortKey.fault s.selection.store.schema))).map (.source ∘ .bind))
      (fun t => Narrows plan.order s.selection t.selection)
      (fromSource (applyPlan s plan) : ExceptT FetchError (OptionT m) (Fragile α)) := by
  simp only [applyPlan, fromSource_bind, Option.map_or]
  apply (s.settles_filterWith plan.order plan.filter).bind
  intro kept narrows
  rcases empty : plan.order with _ | ⟨key, rest⟩
  · exact ⟨kept, fromSource_pure kept, empty ▸ narrows⟩
  · have ordered := kept.settles_order (m := m) (key :: rest)
    rw [narrows.store] at ordered
    exact ordered.imp fun sorted later => (empty ▸ narrows).trans later

omit [LawfulMonad m] in
theorem read_eq {s : Selection α} {rows : List α} (read : s.rows? = some rows) :
    (Fragile.read ⟨s⟩ : ExceptT SourceError (OptionT m) (List α)) = pure rows := by
  rw [Fragile.read, read]
  rfl

theorem paginate_run (s : Selection α) {request : PageRequest} {n : UInt64}
    (reached : request.offset = .ok n) :
    (paginate (⟨s⟩ : Fragile α) request : ExceptT FetchError (OptionT Id) (Page α)).run.run =
      s.rows?.map fun _ => .ok (s.page request n) := by
  unfold paginate pageOffset
  rw [reached]
  cases read : s.rows? with
  | none =>
    have counted : (Queryable.count (⟨s⟩ : Fragile α) : ExceptT SourceError (OptionT Id) UInt64) =
        .mk (.mk none) := by
      simp only [Queryable.count, Fragile.read, read]
      rfl
    rw [counted]
    rfl
  | some rows =>
    obtain rfl := Selection.rows?_eq_some read
    have window : ((s.push (.skip n)).push (.take request.size)).rows? =
        some ((s.rows.drop n.toNat).take request.size.toNat) := by
      rw [Selection.rows?_push, Selection.rows?_push, read]
      rfl
    simp only [Queryable.count, Queryable.list, Queryable.skip, Queryable.take, Selection.skip,
      Selection.take, read_eq read, read_eq window, pure_bind, liftM_pure, fromSource_pure]
    rfl

end Fragile

theorem settles_requested (s : Selection α) (limits : Limits) (request : Request)
    (extra : Option Filter) :
    Settles (requestFault s.store.schema limits request extra)
      (fun t => ∀ plan, request.plan limits default = .ok plan →
        Narrows plan.order s t.selection)
      ((⟨pure ⟨s⟩, limits⟩ : Repository (OptionT m) (Fragile α)).requested request extra) := by
  unfold Repository.requested requestFault
  cases request.plan limits default with
  | error e => rfl
  | ok plan =>
    simp only [liftM_pure, pure_bind]
    rw [Plan.fault, ← Option.or_assoc, Option.map_or]
    apply (Fragile.settles_applyPlan ⟨s⟩ plan).bind
    intro applied narrows
    have filtered := applied.settles_filterWith (m := m) plan.order extra
    rw [narrows.store] at filtered
    refine filtered.imp fun t later => ?_
    rintro _ ⟨⟩
    exact narrows.trans later

/-- A request for a page either has a fault, or comes down to cutting a page. -/
theorem getRequestedPage_cases (s : Selection α) (limits : Limits) (request : Request)
    (extra : Option Filter) (index size : UInt64) :
    (∃ e, pageFault s.store.schema limits request extra index size = some e ∧
      (⟨pure ⟨s⟩, limits⟩ : Repository (OptionT m) (Fragile α)).getRequestedPage request extra index
        size = throw e) ∨
    pageFault s.store.schema limits request extra index size = none ∧
      ∃ (t : Selection α) (n : UInt64), (PageRequest.oneBased index size).offset = .ok n ∧
        (∀ plan, request.plan limits default = .ok plan → Narrows plan.order s t) ∧
        (⟨pure ⟨s⟩, limits⟩ : Repository (OptionT m) (Fragile α)).getRequestedPage request extra
          index size = paginate (⟨t⟩ : Fragile α) (.oneBased index size) := by
  have first := settles_pageOffset (m := OptionT m) (.oneBased index size)
  have second := settles_requested (m := m) s limits request extra
  rw [pageFault, ← offset_fault]
  unfold Repository.getRequestedPage
  rcases reached : (PageRequest.oneBased index size).offset with e | n
  · rw [reached] at first
    have failed : pageOffset (.oneBased index size) = throw (FetchError.argument e) := first
    exact .inl ⟨.argument e, rfl, by simp only [failed, throw_bind]⟩
  rw [reached] at first
  obtain ⟨k, here, -⟩ := first
  simp only [here, pure_bind, faultOf, Option.map_none, Option.none_or]
  rcases fault : requestFault s.store.schema limits request extra with _ | e
  · rw [fault] at second
    obtain ⟨t, selected, narrows⟩ := second
    exact .inr ⟨rfl, t.selection, n, rfl, narrows, by rw [selected, pure_bind]⟩
  · rw [fault] at second
    have failed : Repository.requested _ request extra = throw e := second
    exact .inl ⟨e, rfl, by rw [failed, throw_bind]⟩

end

def pageFetched (s : Selection α) (limits : Limits) (request : Request) (extra : Option Filter)
    (index size : UInt64) : Option (Except FetchError (Page α)) :=
  ((⟨pure ⟨s⟩, limits⟩ : Repository (OptionT Id) (Fragile α)).getRequestedPage request extra index
    size).run.run

theorem pageFetched_cases (s : Selection α) (limits : Limits) (request : Request)
    (extra : Option Filter) (index size : UInt64) :
    (∃ e, pageFault s.store.schema limits request extra index size = some e ∧
      pageFetched s limits request extra index size = some (.error e)) ∨
    pageFault s.store.schema limits request extra index size = none ∧
      ∃ (t : Selection α) (n : UInt64),
        (∀ plan, request.plan limits default = .ok plan → Narrows plan.order s t) ∧
        pageFetched s limits request extra index size =
          t.rows?.map fun _ => .ok (t.page (.oneBased index size) n) := by
  unfold pageFetched
  rcases getRequestedPage_cases (m := Id) s limits request extra index size with
    ⟨e, fault, failed⟩ | ⟨fault, t, n, reached, narrows, cut⟩
  · exact .inl ⟨e, fault, by rw [failed]; rfl⟩
  · exact .inr ⟨fault, t, n, narrows, by rw [cut, Fragile.paginate_run t reached]⟩

theorem pageFetched_eq_error {s : Selection α} {limits : Limits} {request : Request}
    {extra : Option Filter} {index size : UInt64} {e : FetchError} :
    pageFetched s limits request extra index size = some (.error e) ↔
      pageFault s.store.schema limits request extra index size = some e := by
  rcases pageFetched_cases s limits request extra index size with
    ⟨e', fault, fetched⟩ | ⟨fault, t, n, -, fetched⟩
  · rw [fault, fetched]
    simp
  · rw [fault, fetched]
    simp

/-- A request for a page fails with the first fault among those of the arguments, the request, its
filter, its sort keys and the other filter, and the stored rows have no part in whether and how it
fails. If there is no fault and the rows can be sorted by the keys of the request, it gives a page;
any page that it gives has the index and the size asked for, counted from 1. -/
theorem page_outcome_exact (s : Selection α) (limits : Limits) (request : Request)
    (extra : Option Filter) (index size : UInt64) :
    (∀ e, pageFetched s limits request extra index size = some (.error e) ↔
      pageFault s.store.schema limits request extra index size = some e) ∧
    (∀ rows e,
      pageFetched (s.onStore { s.store with rows := rows }) limits request extra index size =
          some (.error e) ↔
        pageFetched s limits request extra index size = some (.error e)) ∧
    (∀ page, pageFetched s limits request extra index size = some (.ok page) →
      page.index = index ∧ page.size = size ∧ page.origin = 1) ∧
    ∀ plan rows, request.plan limits default = .ok plan → s.rows? = some rows →
      Sortable s.store.schema plan.order rows →
      pageFault s.store.schema limits request extra index size = none →
      ∃ page, pageFetched s limits request extra index size = some (.ok page) := by
  refine ⟨fun e => pageFetched_eq_error, fun rows e => ?_, fun page given => ?_,
    fun plan rows planned read sortable faultless => ?_⟩
  · rw [pageFetched_eq_error, pageFetched_eq_error]
    rfl
  · rcases pageFetched_cases s limits request extra index size with
      ⟨e, -, fetched⟩ | ⟨-, t, n, -, fetched⟩
    · rw [fetched] at given
      cases given
    · rw [fetched] at given
      obtain ⟨_, -, same⟩ := Option.map_eq_some_iff.mp given
      cases same
      exact ⟨rfl, rfl, rfl⟩
  · rcases pageFetched_cases s limits request extra index size with
      ⟨e, fault, -⟩ | ⟨-, t, n, narrows, fetched⟩
    · rw [faultless] at fault
      cases fault
    · obtain ⟨kept, here, -⟩ := (narrows plan planned).reads rows read sortable
      rw [fetched, here]
      exact ⟨_, rfl⟩

/-- The records in the order of their member `k`. -/
def byMember : Request := ⟨[⟨"k", "asc"⟩], none⟩

/-- More rows than are sorted by insertion, all of them numbers. -/
theorem page_outcome_exact_numbers :
    let s : Selection Json := (⟨Json.schema, (List.range 25).map fun n =>
      single (.number (.int (7 * n % 25)))⟩ : Store Json).select
    ∃ plan rows, byMember.plan .standard default = .ok plan ∧ s.rows? = some rows ∧
      Sortable Json.schema plan.order rows ∧ insertionLimit < rows.length ∧
      ∃ page, pageFetched s .standard byMember none 2 10 = some (.ok page) ∧
        page.index = 2 ∧ page.size = 10 ∧ page.origin = 1 := by
  intro s
  have planned : byMember.plan .standard default = .ok ⟨none, [⟨"k", .ascending⟩]⟩ := rfl
  have typed : OneTyped [⟨⟨Json.readPath ["k"], none⟩, .ascending⟩] s.store.rows := by
    decide +kernel
  have sortable : Sortable Json.schema [⟨"k", .ascending⟩] s.store.rows := by
    refine .inr fun keys bound => ?_
    cases bound
    exact typed
  obtain ⟨-, -, shape, there⟩ := page_outcome_exact s .standard byMember none 2 10
  obtain ⟨page, given⟩ := there _ _ planned rfl sortable rfl
  exact ⟨_, _, planned, rfl, sortable, by decide, page, given, shape page given⟩

/-- Numbers and texts under one key, which compare equal to one another. -/
def mixedRows : List Json :=
  let n (i : Int) := single (.number (.int i))
  let t (s : String) := single (.string s)
  [n 0, t "j", n 7, n 6, t "i", t "a", t "g", t "f", t "g", t "b", t "i", n 0, n 7, t "c", t "j",
    n 5, t "b", t "a", n 6, t "i", n 1]

/-- A request without a fault of which nothing comes, since its rows cannot be sorted. -/
theorem mixed_rows_give_no_page :
    let s : Selection Json := (⟨Json.schema, mixedRows⟩ : Store Json).select
    pageFault s.store.schema .standard byMember none 1 5 = none ∧
      pageFetched s .standard byMember none 1 5 = none := by
  refine ⟨by decide, Option.isNone_iff_eq_none.mp ?_⟩
  decide +kernel

end RecordQuery
