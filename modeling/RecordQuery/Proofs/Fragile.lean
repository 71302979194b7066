import RecordQuery.Proofs.Paging
import RecordQuery.Proofs.OrderStep
import RecordQuery.Repository

/-! Fetches from a store whose sorts may give up. A fetch of which something comes gives what it
gives where sorting is a function. -/
namespace RecordQuery

variable {α β γ ε : Type}

theorem sort?_eq_some {cmp : α → α → Ordering} {xs ys : List α} :
    sort? cmp xs = some ys ↔
      (xs.length ≤ insertionLimit ∨ Orders cmp xs) ∧ stableSort cmp xs = ys := by
  unfold sort?
  split <;> simp_all

/-- The comparison of records is reversed as they change places, so only transitivity is in
question. -/
theorem orders_iff {keys : List (BoundKey α)} {rows : List α} :
    Orders (compareRecords keys) rows ↔ TransitiveOn keys rows := by
  constructor
  · intro orders x hx y hy z hz first second
    exact (orders x hx y hy).2 first z hz second
  · intro transitive x hx y hy
    refine ⟨compareRecords_swap keys x y, fun first z hz second => ?_⟩
    exact transitive x hx y hy z hz first second

theorem orders_of_oneTyped {keys : List (BoundKey α)} {rows : List α}
    (typed : OneTyped keys rows) : Orders (compareRecords keys) rows :=
  orders_iff.mpr (transitiveOn_of_oneTyped typed)

theorem Step.run?_eq_some {step : Step α} {rows left : List α} (done : step.run? rows = some left) :
    step.run rows = left := by
  cases step with
  | order keys => exact (sort?_eq_some.mp done).2
  | filter | skip | take => exact Option.some.inj done

namespace Selection

theorem rows?_push (s : Selection α) (step : Step α) :
    (s.push step).rows? = s.rows?.bind fun rows => step.run? rows := by
  simp only [rows?, push, List.foldlM_append, List.foldlM_cons, List.foldlM_nil, bind_pure]
  rfl

theorem rows?_eq_some {s : Selection α} {rows : List α} (read : s.rows? = some rows) :
    s.rows = rows := by
  obtain ⟨store, steps⟩ := s
  unfold rows? at read
  unfold Selection.rows
  generalize store.rows = start at read
  induction steps generalizing start with
  | nil => exact Option.some.inj read
  | cons step steps ih =>
    rw [List.foldlM_cons] at read
    obtain ⟨left, first, rest⟩ := Option.bind_eq_some_iff.mp read
    rw [List.foldl_cons, Step.run?_eq_some first]
    exact ih left rest

end Selection

/-- What comes of a fetch that may give up, if anything does, comes of another one as well. -/
def Follows (f : β → γ) (fragile : ExceptT ε (OptionT Id) β) (plain : ExceptT ε Id γ) : Prop :=
  ∀ result, fragile.run.run = some result → plain.run = result.map f

namespace Follows

variable {β' γ' : Type} {f : β → γ} {g : β' → γ'}
variable {fragile : ExceptT ε (OptionT Id) β} {plain : ExceptT ε Id γ}

theorem pure (b : β) : Follows f (Pure.pure b : ExceptT ε (OptionT Id) β) (Pure.pure (f b)) := by
  rintro _ ⟨⟩
  rfl

theorem lift (b : β) : Follows f (liftM (Pure.pure b : OptionT Id β) : ExceptT ε (OptionT Id) β)
    (liftM (Pure.pure (f b) : Id γ)) := by
  rintro _ ⟨⟩
  rfl

theorem throw (e : ε) : Follows f (MonadExcept.throw e : ExceptT ε (OptionT Id) β)
    (MonadExcept.throw e) := by
  rintro _ ⟨⟩
  rfl

theorem bind {next : β → ExceptT ε (OptionT Id) β'} {next' : γ → ExceptT ε Id γ'}
    (first : Follows f fragile plain) (rest : ∀ b, Follows g (next b) (next' (f b))) :
    Follows g (fragile >>= next) (plain >>= next') := by
  intro result came
  rw [ExceptT.run_bind, OptionT.run_bind] at came
  rcases here : fragile.run.run with _ | e | b
  · rw [here] at came
    cases came
  · rw [here] at came
    cases came
    rw [ExceptT.run_bind, first _ here]
    rfl
  · rw [here] at came
    rw [ExceptT.run_bind, first _ here]
    exact rest b result came

theorem adapt {ε' : Type} (h : ε → ε') (follows : Follows f fragile plain) :
    Follows f (fragile.adapt h) (plain.adapt h) := by
  intro result came
  have opened : fragile.run.run.map (Except.mapError h) = some result := came
  obtain ⟨first, here, rfl⟩ := Option.map_eq_some_iff.mp opened
  rw [ExceptT.run_adapt, follows _ here]
  cases first <;> rfl

end Follows

section

variable (s : Fragile α)

theorem follows_filter (f : Filter) : Follows Fragile.selection
    (Queryable.filter s f) (Queryable.filter s.selection f) := by
  rintro _ ⟨⟩
  change s.selection.filter f = _
  cases s.selection.filter f <;> rfl

theorem follows_order (keys : List SortKey) : Follows Fragile.selection
    (Queryable.order s keys) (Queryable.order s.selection keys) := by
  rintro _ ⟨⟩
  change s.selection.order keys = _
  cases s.selection.order keys <;> rfl

theorem follows_list : Follows id (Queryable.list s) (Queryable.list s.selection) := by
  intro result came
  have read : s.selection.rows?.map .ok = some result := came
  obtain ⟨rows, here, rfl⟩ := Option.map_eq_some_iff.mp read
  exact congrArg Except.ok (Selection.rows?_eq_some here)

theorem follows_count : Follows id (Queryable.count s) (Queryable.count s.selection) := by
  have counted : (Queryable.count s.selection : ExceptT SourceError Id UInt64) =
      Queryable.list s.selection >>= fun rows => pure (.ofNat rows.length) := rfl
  rw [counted]
  exact (follows_list s).bind fun rows => .pure _

theorem follows_filterWith : ∀ filter : Option Filter, Follows Fragile.selection
    (filterWith s filter) (filterWith s.selection filter)
  | some f => follows_filter s f
  | none => .pure s

theorem follows_applyPlan (plan : Plan) : Follows Fragile.selection
    (applyPlan s plan) (applyPlan s.selection plan) := by
  unfold applyPlan
  refine (follows_filterWith s plan.filter).bind fun kept => ?_
  split
  · exact .pure kept
  · exact follows_order kept plan.order

theorem follows_takeUpTo : ∀ size : Option UInt64, Follows (ε := ε) Fragile.selection
    (liftM (takeUpTo s size : OptionT Id (Fragile α))) (liftM (takeUpTo (m := Id) s.selection size))
  | some _ => .lift _
  | none => .lift s

theorem follows_pageOffset (request : PageRequest) :
    Follows id (pageOffset request) (pageOffset request) := by
  unfold pageOffset
  cases request.offset with
  | ok n => exact .pure n
  | error e => exact .throw _

theorem follows_paginate (request : PageRequest) :
    Follows id (paginate s request) (paginate s.selection request) := by
  unfold paginate
  refine (follows_pageOffset request).bind fun offset => ?_
  refine ((follows_count s).adapt _).bind fun total => ?_
  refine (Follows.lift (f := Fragile.selection) _).bind fun rest => ?_
  refine (Follows.lift (f := Fragile.selection) _).bind fun window => ?_
  exact ((follows_list window).adapt _).bind fun items => .pure _

theorem follows_narrowed (s : Selection α) (limits : Limits) (filter : Option Filter)
    (order : Option (List SortKey)) : Follows Fragile.selection
      ((⟨pure ⟨s⟩, limits⟩ : Repository (OptionT Id) (Fragile α)).narrowed filter order)
      ((⟨s, limits⟩ : Repository Id (Selection α)).narrowed filter order) := by
  unfold Repository.narrowed
  refine (Follows.lift (f := Fragile.selection) ⟨s⟩).bind fun opened => ?_
  refine (follows_filterWith opened filter).bind fun kept => ?_
  cases order with
  | some keys => exact follows_order kept keys
  | none => exact .pure kept

theorem follows_requested (s : Selection α) (limits : Limits) (request : Request)
    (filter : Option Filter) : Follows Fragile.selection
      ((⟨pure ⟨s⟩, limits⟩ : Repository (OptionT Id) (Fragile α)).requested request filter)
      ((⟨s, limits⟩ : Repository Id (Selection α)).requested request filter) := by
  unfold Repository.requested
  cases request.plan limits default with
  | error e => exact .throw _
  | ok plan =>
    refine (Follows.lift (f := Fragile.selection) ⟨s⟩).bind fun opened => ?_
    refine ((follows_applyPlan opened plan).adapt _).bind fun applied => ?_
    exact (follows_filterWith applied filter).adapt _

end

/-- What a fetch from a store whose sorts may give up comes to, if it comes to anything, is what it
comes to where the same rows are sorted by a function. -/
theorem fetches_follow (s : Selection α) (limits : Limits) :
    let fragile : Repository (OptionT Id) (Fragile α) := ⟨pure ⟨s⟩, limits⟩
    let plain : Repository Id (Selection α) := ⟨s, limits⟩
    (∀ filter, Follows id (fragile.get filter) (plain.get filter)) ∧
    (∀ filter order size,
      Follows id (fragile.getList filter order size) (plain.getList filter order size)) ∧
    (∀ filter order index size,
      Follows id (fragile.getPage filter order index size) (plain.getPage filter order index size)) ∧
    (∀ request filter size,
      Follows id (fragile.getRequested request filter size)
        (plain.getRequested request filter size)) ∧
    ∀ request filter index size,
      Follows id (fragile.getRequestedPage request filter index size)
        (plain.getRequestedPage request filter index size) := by
  refine ⟨fun filter => ?_, fun filter order size => ?_, fun filter order index size => ?_,
    fun request filter size => ?_, fun request filter index size => ?_⟩
  · refine (Follows.lift (f := Fragile.selection) ⟨s⟩).bind fun opened => ?_
    refine (follows_filter opened filter).bind fun kept => ?_
    refine (Follows.lift (f := Fragile.selection) _).bind fun first => ?_
    exact (follows_list first).bind fun rows => .pure _
  · refine (follows_narrowed s limits filter order).bind fun narrowed => ?_
    exact (follows_takeUpTo narrowed size).bind follows_list
  · refine (follows_pageOffset _).bind fun _ => ?_
    refine ((follows_narrowed s limits filter order).adapt _).bind fun narrowed => ?_
    exact follows_paginate narrowed _
  · refine (follows_requested s limits request filter).bind fun narrowed => ?_
    exact (follows_takeUpTo narrowed size).bind fun cut => (follows_list cut).adapt _
  · refine (follows_pageOffset _).bind fun _ => ?_
    refine (follows_requested s limits request filter).bind fun narrowed => ?_
    exact follows_paginate narrowed _

end RecordQuery
