import RecordQuery.Proofs.OrderStep

/-! Putting rows in order more than once. A later order decides first and an earlier one breaks its
ties, so two orders in a row are one order by the keys of both; filters between them may be applied
before. -/
namespace RecordQuery

variable {α : Type}

/-- What is arranged by one comparison and then by another one is arranged by both, of which the
second one decides first. -/
theorem Arranged.thenBy {cmp later : α → α → Ordering} [Std.ReflCmp later]
    {before middle after : List α} (first : Arranged cmp before middle)
    (second : Arranged later middle after) :
    Arranged (fun a b => (later a b).then (cmp a b)) before after := by
  refine ⟨second.perm.trans first.perm, ?_, ?_⟩
  · rw [List.pairwise_iff_forall_sublist]
    intro a b pair
    have up : later a b ≠ .gt := List.pairwise_iff_forall_sublist.mp second.sorted pair
    cases order : later a b with
    | lt => simp
    | gt => exact absurd order up
    | eq =>
      -- ties of the second sorting stand as the first one has left them
      have tied := pair.filter (later a · = .eq)
      have inside := second.perm.mem_iff.mp (pair.subset List.mem_cons_self)
      rw [second.stable a inside] at tied
      simp only [List.filter_cons, Std.ReflCmp.compare_self, order, decide_true, if_true,
        List.filter_nil] at tied
      exact List.pairwise_iff_forall_sublist.mp first.sorted (tied.trans List.filter_sublist)
  · intro x member
    have inside := first.perm.mem_iff.mpr member
    simp only [Ordering.then_eq_eq, Bool.decide_and, ← List.filter_filter]
    rw [List.filter_comm, second.stable x inside, List.filter_comm, first.stable x member,
      List.filter_comm]

namespace Selection

/-- Filters applied one after the other. -/
def filterAll (s : Selection α) (filters : List Filter) : Except SourceError (Selection α) :=
  filters.foldlM Selection.filter s

variable {s : Selection α} {filters : List Filter}

theorem filterAll_ok {tests : List (α → Truth)}
    (bound : filters.mapM (Filter.bind s.store.schema) = .ok tests) :
    ∃ kept : Selection α, s.filterAll filters = .ok kept ∧ kept.store = s.store ∧
      kept.rows = s.rows.filter fun x => tests.all (isMatch · x) := by
  induction filters generalizing s tests with
  | nil =>
    cases bound
    exact ⟨s, rfl, rfl, by simp⟩
  | cons f rest ih =>
    rw [List.mapM_cons] at bound
    obtain ⟨test, head, bound⟩ := bind_eq_ok.mp bound
    obtain ⟨others, tail, made⟩ := bind_eq_ok.mp bound
    cases made
    obtain ⟨kept, applied, store, rows⟩ := ih (s := s.push (.filter test)) tail
    refine ⟨kept, ?_, store, ?_⟩
    · rw [filterAll, List.foldlM_cons, filter_eq head]
      exact applied
    · rw [rows, rows_push]
      simp [Step.run, List.filter_filter, Bool.and_comm]

theorem run_subset (step : Step α) (rows : List α) : step.run rows ⊆ rows := by
  cases step with
  | filter test => exact List.filter_subset_self _
  | order keys => exact (stableSort_perm rows).subset
  | skip n => exact List.drop_subset _ _
  | take n => exact List.take_subset _ _

theorem rows_subset (s : Selection α) : s.rows ⊆ s.store.rows := by
  have running (steps : List (Step α)) (rows : List α) : steps.foldl Step.run rows ⊆ rows := by
    induction steps generalizing rows with
    | nil => exact List.Subset.refl _
    | cons step rest ih => exact List.Subset.trans (ih _) (run_subset step rows)
  exact running s.steps s.store.rows

end Selection

section

variable {s : Selection α} {first later : List SortKey} {keys more : List (BoundKey α)}

theorem sort_twice_arranged {rows : List α} (typed : OneTyped (more ++ keys) rows) (p : α → Bool) :
    Arranged (compareRecords (more ++ keys)) (rows.filter p)
      (stableSort (compareRecords more) ((stableSort (compareRecords keys) rows).filter p)) := by
  obtain ⟨typedLater, typedFirst⟩ := List.forall_mem_append.mp typed
  have joint : compareRecords (more ++ keys) =
      fun a b => (compareRecords more a b).then (compareRecords keys a b) := by
    funext a b
    exact compareRecords_append more keys a b
  have sorted : Arranged (compareRecords keys) rows (stableSort (compareRecords keys) rows) :=
    sort_arranged typedFirst
  have kept : (stableSort (compareRecords keys) rows).filter p ⊆ rows :=
    List.Subset.trans (List.filter_subset_self _) sorted.perm.subset
  rw [joint]
  apply (sorted.filter p).thenBy
  exact sort_arranged (OneTyped.subset typedLater kept)

/-- Where the values of the rows of a store are of one type under each key, a selection that is put
in order twice, with filters between the two, lists the same rows as the one that is filtered first
and put in order once, by the keys of the later order and then those of the earlier one. -/
theorem order_twice_exact (found : SortKey.bindAll s.store.schema first = .ok keys)
    (found' : SortKey.bindAll s.store.schema later = .ok more)
    (typed : OneTyped (more ++ keys) s.store.rows) (filters : List Filter)
    (tests : List (α → Truth)) (bound : filters.mapM (Filter.bind s.store.schema) = .ok tests) :
    ∃ twice once : Selection α,
      (do (← (← s.order first).filterAll filters).order later) = .ok twice ∧
      (do (← s.filterAll filters).order (later ++ first)) = .ok once ∧
      twice.rows = once.rows ∧
      Arranged (compareRecords (more ++ keys))
        (s.rows.filter fun x => tests.all (isMatch · x)) once.rows := by
  obtain ⟨between, narrowed, store, rows⟩ :=
    Selection.filterAll_ok (s := s.push (.order keys)) bound
  obtain ⟨kept, narrowed', store', rows'⟩ := Selection.filterAll_ok bound
  rw [Selection.rows_push] at rows
  have both := SortKey.bindAll_append found' found
  have typedRows := OneTyped.subset typed s.rows_subset
  have once : Arranged (compareRecords (more ++ keys)) kept.rows
      (kept.push (.order (more ++ keys))).rows := by
    rw [Selection.rows_push]
    apply sort_arranged
    apply OneTyped.subset typedRows
    rw [rows']
    exact List.filter_subset_self _
  have twice := sort_twice_arranged typedRows fun x => tests.all (isMatch · x)
  refine ⟨between.push (.order more), kept.push (.order (more ++ keys)), ?_, ?_, ?_, ?_⟩
  · rw [Selection.order_eq found]
    change (do (← (s.push (.order keys)).filterAll filters).order later) = _
    rw [narrowed]
    exact Selection.order_eq (store ▸ found')
  · rw [narrowed']
    exact Selection.order_eq (store' ▸ both)
  · rw [Selection.rows_push, rows]
    rw [rows'] at once
    exact twice.unique once
  · rwa [rows'] at once

end

/-- The first row is skipped, the one whose number is 4 is filtered out between the two orders. -/
theorem order_twice_exact_grouped :
    let a := Json.string "a"
    let s : Selection Json := ⟨⟨Json.schema, [grouped a 9, grouped .null 3, grouped a 1,
      grouped (.string "b") 7, grouped a 2, grouped (.string "b") 4]⟩, [.skip 1]⟩
    let noFour : Filter := .ofLambda ⟨⟨0⟩, FieldRef.compare ⟨⟨0⟩, "n"⟩ .ne (.ofInt 4)⟩
    ∃ twice once : Selection Json,
      (do (← (← s.order [⟨"n", .descending⟩]).filterAll [noFour]).order [⟨"g", .ascending⟩]) =
        .ok twice ∧
      (do (← s.filterAll [noFour]).order [⟨"g", .ascending⟩, ⟨"n", .descending⟩]) = .ok once ∧
      twice.rows = once.rows ∧
      once.rows = [grouped .null 3, grouped a 2, grouped a 1, grouped (.string "b") 7] := by
  intro a s noFour
  obtain ⟨tests, bound⟩ : ∃ tests, [noFour].mapM (Filter.bind s.store.schema) = .ok tests :=
    ⟨_, rfl⟩
  let first : List (BoundKey Json) := [⟨⟨Json.readPath ["n"], none⟩, .descending⟩]
  let later : List (BoundKey Json) := [⟨⟨Json.readPath ["g"], none⟩, .ascending⟩]
  have found : SortKey.bindAll s.store.schema [⟨"n", .descending⟩] = .ok first := rfl
  have found' : SortKey.bindAll s.store.schema [⟨"g", .ascending⟩] = .ok later := rfl
  have typed : OneTyped (later ++ first) s.store.rows := by decide
  obtain ⟨twice, once, made, made', same, -⟩ :=
    order_twice_exact found found' typed [noFour] tests bound
  refine ⟨twice, once, made, made', same, ?_⟩
  cases made'
  rfl

end RecordQuery
