import Mathlib.Data.List.Basic
import Mathlib.Data.List.Sort
import RecordQuery.SortKey

/-! Stable sorting. A list in order, in which what compares equal stands as it stood before, is
determined by that, so it does not matter how it is found; and parts of it are in order likewise. -/
namespace RecordQuery

variable {α β : Type} {cmp : α → α → Ordering}

/-- The elements put in order, those that compare equal to one another as they stood before. -/
structure Arranged (cmp : α → α → Ordering) (before after : List α) : Prop where
  perm : after.Perm before
  sorted : after.Pairwise fun a b => cmp a b ≠ .gt
  stable : ∀ x ∈ before, after.filter (cmp x · = .eq) = before.filter (cmp x · = .eq)

/-- Two lists in order are the same if they hold the same elements and every set of elements that
compare equal stands in one order in both. -/
theorem eq_of_sorted [Std.OrientedCmp cmp] {xs ys : List α} (perm : xs.Perm ys)
    (first : xs.Pairwise fun a b => cmp a b ≠ .gt) (second : ys.Pairwise fun a b => cmp a b ≠ .gt)
    (alike : ∀ x ∈ xs, xs.filter (cmp x · = .eq) = ys.filter (cmp x · = .eq)) : xs = ys := by
  induction xs generalizing ys with
  | nil => exact perm.nil_eq
  | cons x xs ih =>
    cases ys with
    | nil => exact perm.eq_nil
    | cons y ys =>
      obtain ⟨low, ordered⟩ := List.pairwise_cons.mp first
      obtain ⟨low', ordered'⟩ := List.pairwise_cons.mp second
      have self (z : α) : cmp z z = .eq := Std.ReflCmp.compare_self
      have up : cmp x y ≠ .gt := by
        rcases List.mem_cons.mp (perm.mem_iff.mpr List.mem_cons_self) with rfl | later
        · simp [self]
        · exact low y later
      have down : cmp y x ≠ .gt := by
        rcases List.mem_cons.mp (perm.mem_iff.mp List.mem_cons_self) with rfl | later
        · simp [self]
        · exact low' x later
      have tie : cmp x y = .eq := by
        have swap : cmp y x = (cmp x y).swap := Std.OrientedCmp.eq_swap
        rw [swap] at down
        cases order : cmp x y <;> simp_all
      -- both lists start with the first of the elements that compare equal to `x`
      have heads := alike x List.mem_cons_self
      rw [List.filter_cons_of_pos (by simp [self]),
        List.filter_cons_of_pos (by simp [tie])] at heads
      obtain ⟨rfl, -⟩ := List.cons.inj heads
      refine congrArg (x :: ·) (ih perm.cons_inv ordered ordered' fun z member => ?_)
      have whole := alike z (List.mem_cons_of_mem _ member)
      rw [List.filter_cons, List.filter_cons] at whole
      split at whole
      · exact (List.cons.inj whole).2
      · exact whole

namespace Arranged

variable {before after : List α}

theorem of_sorted (sorted : before.Pairwise fun a b => cmp a b ≠ .gt) :
    Arranged cmp before before :=
  ⟨.refl _, sorted, fun _ _ => rfl⟩

theorem filter (arranged : Arranged cmp before after) (p : α → Bool) :
    Arranged cmp (before.filter p) (after.filter p) := by
  refine ⟨arranged.perm.filter p, arranged.sorted.filter p, fun x member => ?_⟩
  have same := arranged.stable x (List.mem_filter.mp member).1
  rw [List.filter_comm, same, List.filter_comm]

theorem map {f : β → α} {before after : List β}
    (arranged : Arranged (fun a b => cmp (f a) (f b)) before after) :
    Arranged cmp (before.map f) (after.map f) := by
  refine ⟨arranged.perm.map f, List.pairwise_map.mpr arranged.sorted, fun x member => ?_⟩
  obtain ⟨b, inside, rfl⟩ := List.mem_map.mp member
  rw [List.filter_map, List.filter_map]
  exact congrArg (List.map f) (arranged.stable b inside)

/-- Only one list is the arrangement of another. -/
theorem unique [Std.OrientedCmp cmp] {other : List α} (first : Arranged cmp before after)
    (second : Arranged cmp before other) : after = other := by
  refine eq_of_sorted (first.perm.trans second.perm.symm) first.sorted second.sorted ?_
  intro x member
  have inside := first.perm.mem_iff.mp member
  rw [first.stable x inside, second.stable x inside]

end Arranged

theorem insertBackwards_perm (x : α) (xs : List α) : (insertBackwards cmp x xs).Perm (x :: xs) := by
  induction xs with
  | nil => exact .refl _
  | cons y rest ih =>
    rw [insertBackwards]
    split
    · exact (ih.cons y).trans (.swap x y rest)
    · exact .refl _

theorem insertionSort_perm (xs : List α) : (insertionSort cmp xs).Perm xs := by
  have inserting (xs done : List α) :
      (xs.foldl (fun sorted x => insertBackwards cmp x sorted) done).Perm (xs.reverse ++ done) := by
    induction xs generalizing done with
    | nil => exact .refl _
    | cons x rest ih =>
      rw [List.foldl_cons, List.reverse_cons, List.append_assoc]
      exact (ih _).trans ((insertBackwards_perm x done).append_left _)
  have perm := inserting xs []
  rw [List.append_nil] at perm
  exact (List.reverse_perm _).trans (perm.trans (List.reverse_perm _))

theorem stableSort_perm (xs : List α) : (stableSort cmp xs).Perm xs := by
  unfold stableSort
  split
  · exact insertionSort_perm xs
  · exact List.mergeSort_perm xs _

section

variable [Std.TransCmp cmp]

theorem insertBackwards_sorted (x : α) {xs : List α}
    (sorted : xs.Pairwise fun a b => (cmp b a).isLE) :
    (insertBackwards cmp x xs).Pairwise fun a b => (cmp b a).isLE := by
  induction xs with
  | nil => exact List.pairwise_singleton _ _
  | cons y rest ih =>
    obtain ⟨high, below⟩ := List.pairwise_cons.mp sorted
    rw [insertBackwards]
    split
    · rename_i less
      refine List.pairwise_cons.mpr ⟨fun z member => ?_, ih below⟩
      rcases List.mem_cons.mp ((insertBackwards_perm x rest).mem_iff.mp member) with rfl | old
      · rw [less]
        rfl
      · exact high z old
    · rename_i notLess
      have step : (cmp y x).isLE := by
        have swap : cmp y x = (cmp x y).swap := Std.OrientedCmp.eq_swap
        rw [swap]
        cases order : cmp x y <;> simp_all
      refine List.pairwise_cons.mpr ⟨fun z member => ?_, sorted⟩
      rcases List.mem_cons.mp member with rfl | old
      · exact step
      · exact Std.TransCmp.isLE_trans (high z old) step

/-- An element moves back past none that it compares equal to. -/
theorem insertBackwards_filter (w x : α) (xs : List α) :
    (insertBackwards cmp x xs).filter (cmp w · = .eq) = (x :: xs).filter (cmp w · = .eq) := by
  induction xs with
  | nil => rfl
  | cons y rest ih =>
    rw [insertBackwards]
    split
    · rename_i less
      have apart : cmp w x = .eq → cmp w y ≠ .eq := by
        intro same
        rw [Std.TransCmp.congr_left same, less]
        decide
      rw [List.filter_cons, ih, List.filter_cons, List.filter_cons, List.filter_cons]
      by_cases here : cmp w x = .eq
      · simp [here, apart here]
      · simp [here]
    · rfl

theorem insertionSort_arranged (xs : List α) : Arranged cmp xs (insertionSort cmp xs) := by
  -- what has been sorted backwards so far, in front of which the others are put one by one
  have sorting (xs done : List α) (sorted : done.Pairwise fun a b => (cmp b a).isLE) :
      (xs.foldl (fun sorted x => insertBackwards cmp x sorted) done).Pairwise
        (fun a b => (cmp b a).isLE) ∧
      ∀ w, (xs.foldl (fun sorted x => insertBackwards cmp x sorted) done).filter (cmp w · = .eq) =
        (xs.reverse ++ done).filter (cmp w · = .eq) := by
    induction xs generalizing done with
    | nil => exact ⟨sorted, fun _ => rfl⟩
    | cons x rest ih =>
      obtain ⟨order, stable⟩ := ih _ (insertBackwards_sorted x sorted)
      rw [List.reverse_cons, List.append_assoc, List.foldl_cons]
      refine ⟨order, fun w => ?_⟩
      rw [stable, List.filter_append, List.filter_append, insertBackwards_filter]
      rfl
  obtain ⟨order, stable⟩ := sorting xs [] List.Pairwise.nil
  rw [List.append_nil] at stable
  refine ⟨insertionSort_perm xs, ?_, fun x _ => ?_⟩
  · rw [insertionSort, List.pairwise_reverse]
    exact order.imp Ordering.ne_gt_iff_isLE.mpr
  · rw [insertionSort, List.filter_reverse, stable, ← List.filter_reverse, List.reverse_reverse]

theorem mergeSort_arranged (xs : List α) :
    Arranged cmp xs (xs.mergeSort fun a b => cmp a b != .gt) := by
  have trans (a b c : α) (first : (cmp a b != .gt) = true) (second : (cmp b c != .gt) = true) :
      (cmp a c != .gt) = true := by
    rw [bne_iff_ne, ne_eq, Ordering.ne_gt_iff_isLE] at first second ⊢
    exact Std.TransCmp.isLE_trans first second
  have total (a b : α) : (cmp a b != .gt || cmp b a != .gt) = true := by
    have swap : cmp a b = (cmp b a).swap := Std.OrientedCmp.eq_swap
    rw [swap]
    cases cmp b a <;> rfl
  have perm := List.mergeSort_perm xs fun a b => cmp a b != .gt
  refine ⟨perm, (List.pairwise_mergeSort trans total xs).imp bne_iff_ne.mp, fun x _ => ?_⟩
  -- the elements equal to `x` are in order as they stand, so they survive as a sublist
  have tied : (xs.filter (cmp x · = .eq)).Pairwise fun a b => (cmp a b != .gt) = true := by
    refine List.pairwise_of_forall_mem_list fun a ha b hb => ?_
    have left : cmp x a = .eq := of_decide_eq_true (List.mem_filter.mp ha).2
    have right : cmp x b = .eq := of_decide_eq_true (List.mem_filter.mp hb).2
    rw [← Std.TransCmp.congr_left left, right]
    rfl
  have kept := (List.sublist_mergeSort trans total tied List.filter_sublist).filter (cmp x · = .eq)
  rw [List.filter_filter] at kept
  simp only [Bool.and_self] at kept
  exact (kept.eq_of_length (perm.filter _).length_eq.symm).symm

theorem stableSort_arranged (xs : List α) : Arranged cmp xs (stableSort cmp xs) := by
  unfold stableSort
  split
  · exact insertionSort_arranged xs
  · exact mergeSort_arranged xs

end

section

variable (cmp) (f : β → α)

theorem insertBackwards_map (x : β) (xs : List β) :
    (insertBackwards (fun a b => cmp (f a) (f b)) x xs).map f =
      insertBackwards cmp (f x) (xs.map f) := by
  induction xs with
  | nil => rfl
  | cons y rest ih =>
    rw [insertBackwards, List.map_cons, insertBackwards, apply_ite (List.map f), List.map_cons, ih]
    rfl

theorem stableSort_map (xs : List β) :
    (stableSort (fun a b => cmp (f a) (f b)) xs).map f = stableSort cmp (xs.map f) := by
  have inserting (xs done : List β) :
      (xs.foldl (fun done x => insertBackwards (fun a b => cmp (f a) (f b)) x done) done).map f =
        (xs.map f).foldl (fun sorted x => insertBackwards cmp x sorted) (done.map f) := by
    induction xs generalizing done with
    | nil => rfl
    | cons x rest ih =>
      rw [List.foldl_cons, ih, insertBackwards_map, List.map_cons, List.foldl_cons]
  unfold stableSort
  rw [List.length_map, apply_ite (List.map f)]
  congr 1
  · rw [insertionSort, List.map_reverse, inserting, insertionSort, List.map_nil]
  · exact List.map_mergeSort fun _ _ _ _ => rfl

end

/-- A list is arranged by an order of its own elements, whatever the comparison does elsewhere. -/
theorem stableSort_arranged_on {xs : List α}
    (order : Std.TransCmp fun a b : {x // x ∈ xs} => cmp a.val b.val) :
    Arranged cmp xs (stableSort cmp xs) := by
  have inside : Arranged (fun a b : {x // x ∈ xs} => cmp a.val b.val) xs.attach
      (stableSort _ xs.attach) := stableSort_arranged xs.attach
  have arranged := inside.map
  rwa [stableSort_map, List.attach_map_subtype_val] at arranged

end RecordQuery
