import RecordQuery.Proofs.History

/-! Changes of several records, beside the same changes made one record after the other. Several
records are judged by the rows as they were, so a batch fails as a whole, and its error names the
first record whose key is not there. Updates come to the same either way, also where a key occurs
more than once. Deletions do so exactly where each of the keys occurs once: one deletion takes the
first row with its key, and a batch takes them all. -/
namespace RecordQuery

/-- A list taken apart into the elements that have a property and the others, each part in the order
in which its elements stood. -/
structure Split {α : Type} (p : α → Prop) (whole taken left : List α) : Prop where
  perm : (taken ++ left).Perm whole
  taken_order : taken.Sublist whole
  left_order : left.Sublist whole
  taken_fit : ∀ x ∈ taken, p x
  left_unfit : ∀ x ∈ left, ¬ p x

/-- A part of a list holds all that a filter keeps of it, if the filter drops the rest. -/
theorem filter_eq_of_perm {α : Type} {p : α → Bool} {whole part rest : List α}
    (perm : (part ++ rest).Perm whole) (order : part.Sublist whole)
    (unfit : ∀ x ∈ rest, p x = false) : part.filter p = whole.filter p := by
  have gone : rest.filter p = [] :=
    List.filter_eq_nil_iff.mpr fun x member => Bool.eq_false_iff.mp (unfit x member)
  have count := (perm.filter p).length_eq
  rw [List.filter_append, gone, List.append_nil] at count
  exact (order.filter p).eq_of_length count

theorem split_iff {α : Type} {p : α → Prop} [DecidablePred p] {whole taken left : List α} :
    Split p whole taken left ↔ taken = whole.filter (p ·) ∧ left = whole.filter (¬ p ·) := by
  constructor
  · intro split
    have taken_all : taken.filter (p ·) = taken :=
      List.filter_eq_self.mpr fun x member => decide_eq_true (split.taken_fit x member)
    have left_all : left.filter (¬ p ·) = left :=
      List.filter_eq_self.mpr fun x member => decide_eq_true (split.left_unfit x member)
    rw [← filter_eq_of_perm split.perm split.taken_order, taken_all,
      ← filter_eq_of_perm (List.perm_append_comm.trans split.perm) split.left_order, left_all]
    · exact ⟨rfl, rfl⟩
    · exact fun x member => decide_eq_false (not_not_intro (split.taken_fit x member))
    · exact fun x member => decide_eq_false (split.left_unfit x member)
  · rintro ⟨rfl, rfl⟩
    constructor
    · simpa using List.filter_append_perm (p ·) whole
    · exact List.filter_sublist
    · exact List.filter_sublist
    · exact fun x member => of_decide_eq_true (List.mem_filter.mp member).2
    · exact fun x member => of_decide_eq_true (List.mem_filter.mp member).2

variable {α κ : Type} [Keyed α κ] [DecidableEq κ]

namespace Store

/-- The error names the first of the records whose key is not there. -/
def NamesFirstMissing (store : Store α) (es : List α) (error : SourceError) : Prop :=
  ∃ before e after, es = before ++ e :: after ∧ (∀ d ∈ before, Keyed.key d ∈ store.keys) ∧
    Keyed.key e ∉ store.keys ∧ error = notFound α (Keyed.key e)

theorem missing_eq_some {rows : List α} {e : α} {error : SourceError} :
    missing rows e = some error ↔
      Keyed.key e ∉ rows.map Keyed.key ∧ error = notFound α (Keyed.key e) := by
  by_cases present : Keyed.key e ∈ rows.map Keyed.key
  · simp [missing, present]
  · simp [missing, present, eq_comm]

theorem firstMissing_eq_some {store : Store α} {es : List α} {error : SourceError} :
    es.findSome? (missing store.rows) = some error ↔ store.NamesFirstMissing es error := by
  rw [List.findSome?_eq_some_iff]
  refine exists_congr fun before => exists_congr fun e => exists_congr fun after => ?_
  simp only [missing_eq_none, missing_eq_some, keys]
  tauto

/-- Updates made one after the other all go through where all keys are there from the start, since a
write touches no key. -/
theorem updateEach_eq_ok {store next : Store α} {es returned : List α} :
    store.perform (es.mapM Operation.update) = (.ok returned, next) ↔
      es.findSome? (missing store.rows) = none ∧ returned = es ∧
        next = { store with rows := es.foldl (fun rows e => replaceFirst e rows) store.rows } := by
  induction es generalizing store returned with
  | nil =>
    rw [List.mapM_nil]
    constructor
    · intro made
      cases made
      exact ⟨rfl, rfl, rfl⟩
    · rintro ⟨-, rfl, rfl⟩
      rfl
  | cons e es ih =>
    have judged : missing (replaceFirst e store.rows) = missing store.rows := by
      funext d
      rw [missing, missing, keys_replaceFirst]
    simp only [perform_mapM_cons_eq_ok, perform_update, settle_eq_ok, List.findSome?_cons,
      List.foldl_cons]
    constructor
    · rintro ⟨b, left, others, ⟨present, rfl, rfl⟩, rest, rfl⟩
      obtain ⟨all, rfl, rfl⟩ := ih.mp rest
      rw [judged] at all
      rw [present]
      exact ⟨all, rfl, rfl⟩
    · cases present : missing store.rows e with
      | some error =>
        rintro ⟨absent, -⟩
        cases absent
      | none =>
        rintro ⟨all, rfl, rfl⟩
        refine ⟨e, _, es, ⟨rfl, rfl, rfl⟩, ih.mpr ⟨?_, rfl, rfl⟩, rfl⟩
        rwa [judged]

/-- What has become of the rows once those with the keys of some records have been taken out. -/
structure Taken (es : List α) (store : Store α) (rows : List α) (left : Store α) : Prop where
  keys : rows.map Keyed.key = es.map Keyed.key
  perm : (rows ++ left.rows).Perm store.rows
  order : left.rows.Sublist store.rows

theorem taken_of_delete {store left : Store α} {e row : α}
    (made : store.perform (.delete e) = (.ok row, left)) : Taken [e] store [row] left := by
  obtain ⟨found, rfl⟩ := delete_eq_ok.mp made
  obtain ⟨here, front, back, whole, apart⟩ := List.find?_eq_some_iff_append.mp found
  have others : ∀ x ∈ front, ¬ hasKey (Keyed.key e) x = true := by simpa using apart
  have rest : store.rows.eraseP (hasKey (Keyed.key e)) = front ++ back := by
    rw [whole, List.eraseP_append_right _ others, List.eraseP_cons_of_pos here]
  constructor
  · simpa [hasKey] using here
  · change (row :: store.rows.eraseP (hasKey (Keyed.key e))).Perm store.rows
    rw [rest, whole]
    exact List.perm_middle.symm
  · exact List.eraseP_sublist

omit [DecidableEq κ] in
theorem Taken.append {es es' rows rows' : List α} {store next left : Store α}
    (first : Taken es store rows next) (second : Taken es' next rows' left) :
    Taken (es ++ es') store (rows ++ rows') left where
  keys := by rw [List.map_append, first.keys, second.keys, List.map_append]
  perm := by
    rw [List.append_assoc]
    exact (second.perm.append_left rows).trans first.perm
  order := second.order.trans first.order

theorem taken_of_deleteEach {es rows : List α} {store left : Store α}
    (made : store.perform (es.mapM Operation.delete) = (.ok rows, left)) :
    Taken es store rows left := by
  induction es generalizing store rows with
  | nil =>
    rw [List.mapM_nil] at made
    cases made
    exact ⟨rfl, .refl _, .refl _⟩
  | cons e es ih =>
    obtain ⟨row, next, others, one, several, rfl⟩ := perform_mapM_cons_eq_ok.mp made
    exact (taken_of_delete one).append (ih several)

theorem delete_succeeds {store : Store α} {e : α} (present : Keyed.key e ∈ store.keys) :
    ∃ row left, store.perform (.delete e) = (.ok row, left) := by
  rcases made : store.perform (.delete e) with ⟨error | row, left⟩
  · have absent := (delete_eq_error.mp made).1
    rw [missing_eq_none.mpr present] at absent
    cases absent
  · exact ⟨row, left, rfl⟩

theorem deleteEach_succeeds {es : List α} {store : Store α} (distinct : (es.map Keyed.key).Nodup)
    (present : ∀ e ∈ es, Keyed.key e ∈ store.keys) :
    ∃ rows left, store.perform (es.mapM Operation.delete) = (.ok rows, left) := by
  induction es generalizing store with
  | nil => exact ⟨[], store, rfl⟩
  | cons e es ih =>
    obtain ⟨fresh, others⟩ := List.nodup_cons.mp distinct
    obtain ⟨first, rest⟩ := List.forall_mem_cons.mp present
    obtain ⟨row, next, one⟩ := delete_succeeds first
    have taken := taken_of_delete one
    -- the row that is gone had another key than the records that are still to be deleted
    have still : ∀ d ∈ es, Keyed.key d ∈ next.keys := by
      intro d member
      have old := (taken.perm.map Keyed.key).mem_iff.mpr (rest d member)
      rw [List.map_append, taken.keys] at old
      rcases List.mem_append.mp old with same | there
      · exact absurd (List.mem_singleton.mp same ▸ List.mem_map_of_mem member) fresh
      · exact there
    obtain ⟨rows, last, several⟩ := ih others still
    exact ⟨row :: rows, last, perform_mapM_cons_eq_ok.mpr ⟨row, next, rows, one, several, rfl⟩⟩

namespace Taken

variable {es rows : List α} {store left : Store α}

theorem once_iff (taken : Taken es store rows left) (distinct : (es.map Keyed.key).Nodup) :
    (∀ e ∈ es, store.keys.count (Keyed.key e) = 1) ↔
      ∀ row ∈ left.rows, Keyed.key row ∉ es.map Keyed.key := by
  -- of the rows with a key one has been taken, since the key is there once among the records
  have count (e : α) (member : e ∈ es) :
      store.keys.count (Keyed.key e) = 1 + left.keys.count (Keyed.key e) := by
    rw [Store.keys, ← (taken.perm.map Keyed.key).count_eq, List.map_append, List.count_append,
      taken.keys, distinct.count, if_pos (List.mem_map_of_mem member), Store.keys]
  constructor
  · intro once row member listed
    obtain ⟨e, inside, same⟩ := List.mem_map.mp listed
    have none : left.keys.count (Keyed.key e) = 0 := by
      have := count e inside
      have := once e inside
      omega
    exact List.count_eq_zero.mp none (same ▸ List.mem_map_of_mem member)
  · intro apart e member
    rw [count e member, List.count_eq_zero.mpr]
    intro there
    obtain ⟨row, inside, same⟩ := List.mem_map.mp there
    exact apart row inside (same ▸ List.mem_map_of_mem member)

omit [DecidableEq κ] in
theorem listed (taken : Taken es store rows left) : ∀ row ∈ rows,
    Keyed.key row ∈ es.map Keyed.key := by
  intro row member
  rw [← taken.keys]
  exact List.mem_map_of_mem member

theorem filter_perm (taken : Taken es store rows left) :
    (store.rows.filter fun row => Keyed.key row ∈ es.map Keyed.key).Perm
      (rows ++ left.rows.filter fun row => Keyed.key row ∈ es.map Keyed.key) := by
  have parts := taken.perm.filter fun row => Keyed.key row ∈ es.map Keyed.key
  have all := List.filter_eq_self.mpr fun row member => decide_eq_true (taken.listed row member)
  rw [List.filter_append, all] at parts
  exact parts.symm

theorem filter_eq (taken : Taken es store rows left) :
    (store.rows.filter fun row => Keyed.key row ∉ es.map Keyed.key) =
      left.rows.filter fun row => Keyed.key row ∉ es.map Keyed.key := by
  refine (filter_eq_of_perm (List.perm_append_comm.trans taken.perm) taken.order ?_).symm
  exact fun row member => decide_eq_false (not_not_intro (taken.listed row member))

/-- What a deletion of all the records at once takes and leaves in comparison. -/
theorem deleteRange (taken : Taken es store rows left) (distinct : (es.map Keyed.key).Nodup)
    (present : ∀ e ∈ es, Keyed.key e ∈ store.keys) :
    ∃ removed next, store.perform (.deleteRange es) = (.ok removed, next) ∧
      removed.Perm (rows ++ left.rows.filter fun row => Keyed.key row ∈ es.map Keyed.key) ∧
      (next.rows = left.rows.filter fun row => Keyed.key row ∉ es.map Keyed.key) ∧
      (removed.Perm rows ↔ ∀ e ∈ es, store.keys.count (Keyed.key e) = 1) ∧
      (next.rows = left.rows ↔ ∀ e ∈ es, store.keys.count (Keyed.key e) = 1) := by
  have more := taken.filter_perm
  refine ⟨_, { store with rows := _ }, ?_, more, taken.filter_eq, ?_, ?_⟩
  · rw [perform_deleteRange, settle_eq_ok]
    exact ⟨(all_present store es).mpr present, rfl, rfl⟩
  · rw [taken.once_iff distinct]
    constructor
    · intro same
      have count := (more.symm.trans same).length_eq
      rw [List.length_append, Nat.add_eq_left, List.length_eq_zero_iff] at count
      simpa using List.filter_eq_nil_iff.mp count
    · intro apart
      have none : (left.rows.filter fun row => Keyed.key row ∈ es.map Keyed.key) = [] :=
        List.filter_eq_nil_iff.mpr fun row member => by simpa using apart row member
      rwa [none, List.append_nil] at more
  · rw [taken.once_iff distinct, taken.filter_eq, List.filter_eq_self]
    simp only [decide_eq_true_eq]

end Taken

end Store

/-- An update of several records goes through exactly if all their keys are there. It gives the
records back as they are, and leaves the rows that the updates of the single records leave, one made
after the other. If it fails, then for the first record whose key is not there, and with the rows as
they were: no record has been put in by then, not even those before that one. -/
theorem updateRange_exact (store : Store α) (es : List α) :
    ((∃ made, (store.perform (.updateRange es)).1 = .ok made) ↔
      ∀ e ∈ es, Keyed.key e ∈ store.keys) ∧
    (∀ returned next, store.perform (.updateRange es) = (.ok returned, next) ↔
      returned = es ∧ store.perform (es.mapM Operation.update) = (.ok es, next)) ∧
    ∀ error next, store.perform (.updateRange es) = (.error error, next) ↔
      store.NamesFirstMissing es error ∧ next = store := by
  refine ⟨store.attempt_ok_iff (.updateRange es), fun returned next => ?_, fun error next => ?_⟩
  · rw [Store.perform_updateRange, Store.settle_eq_ok, Store.updateEach_eq_ok]
    constructor
    · rintro ⟨all, rfl, rfl⟩
      exact ⟨rfl, all, rfl, rfl⟩
    · rintro ⟨rfl, all, -, rfl⟩
      exact ⟨all, rfl, rfl⟩
  · rw [Store.perform_updateRange, Store.settle_eq_error, Store.firstMissing_eq_some]

/-- Records with a key that occurs twice among them, and rows with one that occurs twice. -/
example : ((⟨fun _ => none, [⟨1, "a"⟩, ⟨1, "b"⟩, ⟨2, "c"⟩]⟩ : Store Item).perform
    (.updateRange [⟨1, "x"⟩, ⟨2, "y"⟩, ⟨1, "z"⟩])).2.rows = [⟨1, "z"⟩, ⟨1, "b"⟩, ⟨2, "y"⟩] := by
  rfl

/-- Updates made one after the other keep what was put in before one of them fails. -/
example : ((⟨fun _ => none, [⟨1, "a"⟩, ⟨2, "b"⟩]⟩ : Store Item).perform
    ([⟨1, "x"⟩, ⟨3, "y"⟩].mapM Operation.update)).2.rows = [⟨1, "x"⟩, ⟨2, "b"⟩] := by
  rfl

/-- A deletion of several records fails exactly if a key of them is not there, for the first such
record, and with the rows as they were. Else it takes the rows apart into those that have one of the
keys, which it gives back, and the others, which it leaves. -/
theorem deleteRange_exact (store : Store α) (es : List α) :
    ((∃ error, (store.perform (.deleteRange es)).1 = .error error) ↔
      ∃ e ∈ es, Keyed.key e ∉ store.keys) ∧
    (∀ error next, store.perform (.deleteRange es) = (.error error, next) ↔
      store.NamesFirstMissing es error ∧ next = store) ∧
    ∀ removed next, store.perform (.deleteRange es) = (.ok removed, next) ↔
      (∀ e ∈ es, Keyed.key e ∈ store.keys) ∧ next.schema = store.schema ∧
        Split (fun row => Keyed.key row ∈ es.map Keyed.key) store.rows removed next.rows := by
  refine ⟨?_, fun error next => ?_, fun removed next => ?_⟩
  · have succeeds := store.attempt_ok_iff (.deleteRange es)
    change (∃ made, (store.perform (.deleteRange es)).1 = .ok made) ↔
      ∀ e ∈ es, Keyed.key e ∈ store.keys at succeeds
    rw [← not_iff_not] at succeeds
    simp only [not_forall, exists_prop] at succeeds
    rw [← succeeds]
    cases (store.perform (.deleteRange es)).1 <;> simp
  · rw [Store.perform_deleteRange, Store.settle_eq_error, Store.firstMissing_eq_some]
  · rw [Store.perform_deleteRange, Store.settle_eq_ok, store.all_present es, split_iff]
    refine and_congr_right fun _ => ?_
    obtain ⟨schema, rows⟩ := next
    simp only [Store.mk.injEq]
    tauto

/-- How a deletion of several records with different keys, all of which are there, compares with
deleting the records one after the other: in addition it takes the rows that then still have one of
the keys. So the two take and leave the same rows exactly if each of the keys occurs once; and for a
single record, wherever its key does not occur more than once. -/
theorem deleteRange_each_exact (store : Store α) :
    (∀ es : List α, (es.map Keyed.key).Nodup → (∀ e ∈ es, Keyed.key e ∈ store.keys) →
      ∃ rows left removed next,
        store.perform (es.mapM Operation.delete) = (.ok rows, left) ∧
        store.perform (.deleteRange es) = (.ok removed, next) ∧
        removed.Perm (rows ++ left.rows.filter fun row => Keyed.key row ∈ es.map Keyed.key) ∧
        (next.rows = left.rows.filter fun row => Keyed.key row ∉ es.map Keyed.key) ∧
        (removed.Perm rows ↔ ∀ e ∈ es, store.keys.count (Keyed.key e) = 1) ∧
        (next.rows = left.rows ↔ ∀ e ∈ es, store.keys.count (Keyed.key e) = 1)) ∧
    ∀ e : α, (store.perform (.deleteRange [e])).2.rows = (store.perform (.delete e)).2.rows ↔
      store.keys.count (Keyed.key e) ≤ 1 := by
  constructor
  · intro es distinct present
    obtain ⟨rows, left, made⟩ := Store.deleteEach_succeeds distinct present
    obtain ⟨removed, next, whole, facts⟩ :=
      (Store.taken_of_deleteEach made).deleteRange distinct present
    exact ⟨rows, left, removed, next, made, whole, facts⟩
  · intro e
    by_cases present : Keyed.key e ∈ store.keys
    · obtain ⟨row, left, made⟩ := Store.delete_succeeds present
      have distinct : ([e].map Keyed.key).Nodup :=
        List.nodup_cons.mpr ⟨List.not_mem_nil, List.nodup_nil⟩
      obtain ⟨removed, next, whole, -, -, -, same⟩ := (Store.taken_of_delete made).deleteRange
        distinct (List.forall_mem_singleton.mpr present)
      have positive := List.count_pos_iff.mpr present
      rw [whole, made, same, List.forall_mem_singleton]
      omega
    · have absent : Store.missing store.rows e = some (Store.notFound α (Keyed.key e)) :=
        Store.missing_eq_some.mpr ⟨present, rfl⟩
      have first : [e].findSome? (Store.missing store.rows) = _ :=
        List.findSome?_singleton.trans absent
      rw [Store.perform_deleteRange, Store.settle_eq_error.mpr ⟨first, rfl⟩,
        Store.delete_eq_error.mpr ⟨absent, rfl⟩, List.count_eq_zero.mpr present]
      exact ⟨fun _ => Nat.zero_le 1, fun _ => rfl⟩

/-- Where only other keys occur twice, the two come to the same. -/
theorem deleteRange_each_exact_items :
    let store : Store Item := ⟨fun _ => none, [⟨1, "a"⟩, ⟨2, "b"⟩, ⟨3, "c"⟩, ⟨2, "d"⟩]⟩
    let es : List Item := [⟨3, "x"⟩, ⟨1, "y"⟩]
    (es.map Keyed.key).Nodup ∧ (∀ e ∈ es, Keyed.key e ∈ store.keys) ∧
      ∃ rows left removed next, store.perform (es.mapM Operation.delete) = (.ok rows, left) ∧
        store.perform (.deleteRange es) = (.ok removed, next) ∧ removed.Perm rows ∧
        next.rows = left.rows := by
  intro store es
  have distinct : (es.map Keyed.key).Nodup := by decide
  have present : ∀ e ∈ es, Keyed.key e ∈ store.keys := by decide
  have once : ∀ e ∈ es, store.keys.count (Keyed.key e) = 1 := by decide
  obtain ⟨rows, left, removed, next, each, whole, -, -, taken, stayed⟩ :=
    (deleteRange_each_exact store).1 es distinct present
  exact ⟨distinct, present, rows, left, removed, next, each, whole, taken.mpr once,
    stayed.mpr once⟩

/-- Of two rows with one key the deletion of a record takes the first, and that of a list of this
record takes both. -/
theorem deleteRange_takes_doubles :
    let store : Store Item := ⟨fun _ => none, [⟨1, "a"⟩, ⟨1, "b"⟩]⟩
    let e : Item := ⟨1, "x"⟩
    Keyed.key e ∈ store.keys ∧ (∃ left, store.perform (.delete e) = (.ok ⟨1, "a"⟩, left) ∧
        store.perform ([e].mapM Operation.delete) = (.ok [⟨1, "a"⟩], left) ∧
        left.rows = [⟨1, "b"⟩]) ∧
      ∃ next, store.perform (.deleteRange [e]) = (.ok [⟨1, "a"⟩, ⟨1, "b"⟩], next) ∧
        next.rows = [] :=
  ⟨by decide, ⟨_, rfl, rfl, rfl⟩, ⟨_, rfl, rfl⟩⟩

end RecordQuery
