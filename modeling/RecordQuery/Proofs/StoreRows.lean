import Mathlib.Data.List.Basic
import RecordQuery.Store

/-! What the operations on a store give, which of them fail, and what they make of the rows. -/
namespace RecordQuery.Store

section

variable {α β γ : Type} {store : Store α}

/-- Of two operations in a row the second one works on what the first one leaves. -/
theorem perform_bind (store : Store α) (first : Operation α β) (next : β → Operation α γ) :
    store.perform (first >>= next) = match store.perform first with
      | (.ok b, left) => left.perform (next b)
      | (.error e, left) => (.error e, left) := by
  simp only [perform, ExceptT.run_bind, StateT.run_bind]
  rcases first.run.run store.rows with ⟨_ | b, rows⟩ <;> rfl

/-- What is only looked up leaves the rows alone. -/
theorem perform_lift (store : Store α) (x : Except SourceError β) :
    store.perform (liftM x) = (x, store) := rfl

theorem perform_get (store : Store α) :
    store.perform (get : Operation α (List α)) = (.ok store.rows, store) := rfl

theorem perform_bind_eq_ok {first : Operation α β} {next : β → Operation α γ} {c : γ}
    {last : Store α} : store.perform (first >>= next) = (.ok c, last) ↔
      ∃ b left, store.perform first = (.ok b, left) ∧ left.perform (next b) = (.ok c, last) := by
  rw [perform_bind]
  rcases store.perform first with ⟨e | b, left⟩
  · simp
  · simp only [Prod.mk.injEq, Except.ok.injEq]
    constructor
    · intro made
      exact ⟨b, left, ⟨rfl, rfl⟩, made⟩
    · rintro ⟨_, _, ⟨rfl, rfl⟩, made⟩
      exact made

theorem perform_map_eq_ok {operation : Operation α β} {f : β → γ} {c : γ} {last : Store α} :
    store.perform (f <$> operation) = (.ok c, last) ↔
      ∃ b, store.perform operation = (.ok b, last) ∧ f b = c := by
  rw [map_eq_pure_bind, perform_bind_eq_ok]
  constructor
  · rintro ⟨b, left, made, same⟩
    cases same
    exact ⟨b, made, rfl⟩
  · rintro ⟨b, made, rfl⟩
    exact ⟨b, last, made, rfl⟩

theorem perform_map_eq_error {operation : Operation α β} {f : β → γ} {e : SourceError}
    {last : Store α} : store.perform (f <$> operation) = (.error e, last) ↔
      store.perform operation = (.error e, last) := by
  rw [map_eq_pure_bind, perform_bind]
  rcases store.perform operation with ⟨error | b, left⟩
  · simp
  · exact ⟨nofun, nofun⟩

theorem perform_mapM_cons_eq_ok {f : α → Operation α β} {x : α} {xs : List α} {made : List β}
    {last : Store α} : store.perform ((x :: xs).mapM f) = (.ok made, last) ↔
      ∃ b left others, store.perform (f x) = (.ok b, left) ∧
        left.perform (xs.mapM f) = (.ok others, last) ∧ b :: others = made := by
  rw [List.mapM_cons]
  simp only [perform_bind_eq_ok, bind_pure_comp, perform_map_eq_ok]
  constructor
  · rintro ⟨b, left, first, others, rest, same⟩
    exact ⟨b, left, others, first, rest, same⟩
  · rintro ⟨b, left, others, first, rest, same⟩
    exact ⟨b, left, first, others, rest, same⟩

/-- A fault leaves the store as it is; without one there are a result and new rows. -/
def settle (store : Store α) (fault : Option SourceError) (result : β) (rows : List α) :
    Except SourceError β × Store α :=
  match fault with
  | some e => (.error e, store)
  | none => (.ok result, { store with rows := rows })

variable {fault : Option SourceError} {result made : β} {rows : List α} {next : Store α}

theorem settle_eq_ok : store.settle fault result rows = (.ok made, next) ↔
    fault = none ∧ result = made ∧ next = { store with rows := rows } := by
  cases fault <;> simp [settle, eq_comm]

theorem settle_eq_error {e : SourceError} : store.settle fault result rows = (.error e, next) ↔
    fault = some e ∧ next = store := by
  cases fault <;> simp [settle, eq_comm]

end

variable {α κ : Type} [Keyed α κ] [DecidableEq κ]

def keys (store : Store α) : List κ := store.rows.map Keyed.key

/-- The rows with a record in the place of the first one that has its key. -/
def replaceFirst (e : α) : List α → List α
  | [] => []
  | row :: rest => if Keyed.key row = Keyed.key e then e :: rest else row :: replaceFirst e rest

/-- The error for a key that no row has. -/
def missing (rows : List α) (e : α) : Option SourceError :=
  if Keyed.key e ∈ rows.map Keyed.key then none else some (notFound α (Keyed.key e))

theorem missing_eq_none {rows : List α} {e : α} :
    missing rows e = none ↔ Keyed.key e ∈ rows.map Keyed.key := by
  simp [missing]

theorem any_hasKey (rows : List α) (k : κ) :
    rows.any (hasKey k) = true ↔ k ∈ rows.map Keyed.key := by
  simp [hasKey]

theorem missing_eq_none_iff_any {rows : List α} {e : α} :
    missing rows e = none ↔ rows.any (hasKey (Keyed.key e)) = true := by
  rw [missing_eq_none, any_hasKey]

/-- The place of a key depends on the keys alone. -/
theorem position_cases (rows : List α) (e : α) :
    (∃ i, position rows (Keyed.key e) = .ok i ∧ missing rows e = none ∧
      (rows.map Keyed.key).findIdx? (· = Keyed.key e) = some i.val) ∨
    ∃ error, position rows (Keyed.key e) = .error error ∧ missing rows e = some error := by
  have place : (rows.map Keyed.key).findIdx? (· = Keyed.key e) =
      (rows.findFinIdx? (hasKey (Keyed.key e))).map Fin.val := by
    rw [List.findIdx?_map, ← List.findIdx?_eq_map_findFinIdx?_val]
    rfl
  rw [place]
  unfold position
  cases found : rows.findFinIdx? (hasKey (Keyed.key e)) with
  | some i =>
    refine .inl ⟨i, rfl, missing_eq_none_iff_any.mpr ?_, rfl⟩
    exact List.any_eq_true.mpr ⟨rows[i], List.getElem_mem _, (List.findFinIdx?_eq_some_iff.mp found).1⟩
  | none =>
    refine .inr ⟨_, rfl, ?_⟩
    have absent : ¬ rows.any (hasKey (Keyed.key e)) = true := by
      rw [List.any_eq_true]
      rintro ⟨row, member, same⟩
      exact List.findFinIdx?_eq_none_iff.mp found row member same
    rw [missing, if_neg fun present => absent ((any_hasKey rows _).mpr present)]

theorem keys_replaceFirst (e : α) (rows : List α) :
    (replaceFirst e rows).map Keyed.key = rows.map Keyed.key := by
  induction rows with
  | nil => rfl
  | cons row rest ih =>
    by_cases here : Keyed.key row = Keyed.key e
    · rw [replaceFirst, if_pos here, List.map_cons, List.map_cons, here]
    · rw [replaceFirst, if_neg here, List.map_cons, List.map_cons, ih]

theorem set_place {e : α} {rows : List α} {i : Nat}
    (place : (rows.map Keyed.key).findIdx? (· = Keyed.key e) = some i) :
    rows.set i e = replaceFirst e rows := by
  induction rows generalizing i with
  | nil => cases place
  | cons row rest ih =>
    rw [List.map_cons, List.findIdx?_cons] at place
    by_cases here : Keyed.key row = Keyed.key e
    · rw [decide_eq_true here, if_pos rfl] at place
      obtain rfl := Option.some.inj place
      rw [replaceFirst, if_pos here, List.set_cons_zero]
    · rw [decide_eq_false here, if_neg Bool.false_ne_true] at place
      obtain ⟨later, found, rfl⟩ := Option.map_eq_some_iff.mp place
      rw [replaceFirst, if_neg here, List.set_cons_succ, ih found]

theorem perform_update (store : Store α) (e : α) : store.perform (.update e) =
    store.settle (missing store.rows e) e (replaceFirst e store.rows) := by
  change store.perform (liftM (position store.rows (Keyed.key e)) >>= fun i =>
    Operation.put i e >>= fun _ => pure e) = _
  rw [perform_bind, perform_lift]
  rcases position_cases store.rows e with ⟨i, found, present, place⟩ | ⟨error, failed, absent⟩
  · rw [found, present, ← set_place place]
    rfl
  · rw [failed, absent]
    rfl

/-- Either all places are found, or the first record without one decides the error. -/
theorem positions_cases (rows es : List α) :
    (∃ places, positions rows es = .ok places ∧ es.findSome? (missing rows) = none) ∨
    ∃ error, positions rows es = .error error ∧ es.findSome? (missing rows) = some error := by
  unfold positions
  induction es with
  | nil => exact .inl ⟨[], rfl, rfl⟩
  | cons e es ih =>
    rw [List.mapM_cons, List.findSome?_cons]
    rcases position_cases rows e with ⟨i, found, present, -⟩ | ⟨error, failed, absent⟩
    · rw [found, present]
      rcases ih with ⟨places, all, none⟩ | ⟨error, failed, first⟩
      · exact .inl ⟨i :: places, by rw [all]; rfl, none⟩
      · exact .inr ⟨error, by rw [failed]; rfl, first⟩
    · exact .inr ⟨error, by rw [failed]; rfl, by rw [absent]⟩

/-- Places in the rows as they were are those in the rows as they have become, since no write on the
way touches a key. -/
theorem perform_puts {store : Store α} {rows es : List α} {places : List (Fin rows.length)}
    (same : store.keys = rows.map Keyed.key) (found : positions rows es = .ok places) :
    store.perform ((places.zip es).forM fun (i, e) => .put i e) =
      (.ok (), { store with rows := es.foldl (fun rows e => replaceFirst e rows) store.rows }) := by
  induction es generalizing store places with
  | nil =>
    rw [List.zip_nil_right]
    rfl
  | cons e es ih =>
    unfold positions at found ih
    rw [List.mapM_cons] at found
    rcases position_cases rows e with ⟨i, here, -, place⟩ | ⟨error, failed, -⟩
    · rw [here] at found
      cases rest : es.mapM fun e => position rows (Keyed.key e) with
      | error => rw [rest] at found; cases found
      | ok others =>
        rw [rest] at found
        obtain rfl : i :: others = places := Except.ok.inj found
        have written : store.rows.set i e = replaceFirst e store.rows := by
          rw [← same] at place
          exact set_place place
        have kept : keys { store with rows := store.rows.set i e } = rows.map Keyed.key := by
          rw [written]
          exact (keys_replaceFirst e store.rows).trans same
        change perform { store with rows := store.rows.set i e }
          ((others.zip es).forM fun (i, e) => .put i e) = _
        rw [ih kept rest, List.foldl_cons, written]
    · rw [failed] at found
      cases found

/-- Putting several records into their places is putting in one after the other. -/
theorem perform_updateRange (store : Store α) (es : List α) : store.perform (.updateRange es) =
    store.settle (es.findSome? (missing store.rows)) es
      (es.foldl (fun rows e => replaceFirst e rows) store.rows) := by
  change store.perform (liftM (positions store.rows es) >>= fun places =>
    (places.zip es).forM (fun (i, e) => .put i e) >>= fun _ => pure es) = _
  rw [perform_bind, perform_lift]
  rcases positions_cases store.rows es with ⟨places, found, none⟩ | ⟨error, failed, first⟩
  · rw [found, none]
    change store.perform ((places.zip es).forM (fun (i, e) => .put i e) >>= fun _ => pure es) = _
    rw [perform_bind, perform_puts rfl found]
    rfl
  · rw [failed, first]
    rfl

theorem perform_delete (store : Store α) (e : α) : store.perform (.delete e) =
    match store.rows.find? (hasKey (Keyed.key e)) with
    | some row => (.ok row, { store with rows := store.rows.eraseP (hasKey (Keyed.key e)) })
    | none => (.error (notFound α (Keyed.key e)), store) := by
  change store.perform (liftM (position store.rows (Keyed.key e)) >>= fun i =>
    set (store.rows.eraseIdx i) >>= fun _ => pure store.rows[i]) = _
  rw [perform_bind, perform_lift, position, List.find?_eq_map_findFinIdx?_getElem,
    List.eraseP_eq_eraseIdx, List.findIdx?_eq_map_findFinIdx?_val]
  cases store.rows.findFinIdx? (hasKey (Keyed.key e)) <;> rfl

theorem delete_eq_ok {store next : Store α} {e row : α} :
    store.perform (.delete e) = (.ok row, next) ↔
      store.rows.find? (hasKey (Keyed.key e)) = some row ∧
        next = { store with rows := store.rows.eraseP (hasKey (Keyed.key e)) } := by
  rw [perform_delete]
  cases store.rows.find? (hasKey (Keyed.key e)) with
  | none => simp
  | some found => simp [eq_comm]

theorem delete_eq_error {store next : Store α} {e : α} {error : SourceError} :
    store.perform (.delete e) = (.error error, next) ↔
      missing store.rows e = some error ∧ next = store := by
  rw [perform_delete]
  cases found : store.rows.find? (hasKey (Keyed.key e)) with
  | some row =>
    have present : missing store.rows e = none := by
      rw [missing_eq_none_iff_any, List.any_eq_true, ← List.find?_isSome, found]
      rfl
    simp [present]
  | none =>
    have absent : Keyed.key e ∉ store.rows.map Keyed.key := by
      rw [← any_hasKey, List.any_eq_true, ← List.find?_isSome, found]
      exact Bool.false_ne_true
    simp [missing, absent, eq_comm]

theorem find_missing (rows es : List α) :
    ((es.map Keyed.key).find? fun k => !rows.any (hasKey k)).map (notFound α) =
      es.findSome? (missing rows) := by
  induction es with
  | nil => rfl
  | cons e es ih =>
    rw [List.map_cons, List.find?_cons, List.findSome?_cons, missing]
    by_cases present : Keyed.key e ∈ rows.map Keyed.key
    · rw [if_pos present, (any_hasKey rows _).mpr present]
      exact ih
    · have absent : rows.any (hasKey (Keyed.key e)) = false :=
        Bool.eq_false_iff.mpr fun found => present ((any_hasKey rows _).mp found)
      rw [if_neg present, absent]
      rfl

/-- Taking out several records splits the rows by whether they have one of the keys. -/
theorem perform_deleteRange (store : Store α) (es : List α) : store.perform (.deleteRange es) =
    store.settle (es.findSome? (missing store.rows))
      (store.rows.filter fun row => Keyed.key row ∈ es.map Keyed.key)
      (store.rows.filter fun row => Keyed.key row ∉ es.map Keyed.key) := by
  rw [← find_missing]
  cases found : (es.map Keyed.key).find? fun k => !store.rows.any (hasKey k) with
  | some k =>
    simp only [Operation.deleteRange, perform_bind, perform_get, found]
    rfl
  | none =>
    simp only [Operation.deleteRange, perform_bind, perform_get, found,
      List.partition_eq_filter_filter, Function.comp_def, decide_not]
    rfl

section

variable {rows : List α}

/-- Of rows with distinct keys those with one key are taken out with the first of them. -/
theorem eraseP_hasKey (distinct : (rows.map Keyed.key).Nodup) (k : κ) :
    rows.eraseP (hasKey k) = rows.filter fun row => Keyed.key row ≠ k := by
  induction rows with
  | nil => rfl
  | cons row rest ih =>
    obtain ⟨fresh, others⟩ := List.nodup_cons.mp distinct
    by_cases here : Keyed.key row = k
    · have rest_apart : ∀ other ∈ rest, decide (Keyed.key other ≠ k) = true := by
        intro other member
        refine decide_eq_true fun same => fresh ?_
        rw [here, ← same]
        exact List.mem_map_of_mem member
      rw [List.eraseP_cons_of_pos (by simpa [hasKey] using here),
        List.filter_cons_of_neg (by simpa using here), List.filter_eq_self.mpr rest_apart]
    · rw [List.eraseP_cons_of_neg (by simpa [hasKey] using here),
        List.filter_cons_of_pos (by simpa using here), ih others]

theorem mem_replaceFirst (distinct : (rows.map Keyed.key).Nodup) {e row : α}
    (member : row ∈ replaceFirst e rows) : row = e ∨ row ∈ rows ∧ Keyed.key row ≠ Keyed.key e := by
  induction rows with
  | nil => cases member
  | cons first rest ih =>
    obtain ⟨fresh, others⟩ := List.nodup_cons.mp distinct
    by_cases here : Keyed.key first = Keyed.key e
    · rw [replaceFirst, if_pos here] at member
      rcases List.mem_cons.mp member with rfl | later
      · exact .inl rfl
      · refine .inr ⟨List.mem_cons_of_mem _ later, fun same => fresh ?_⟩
        rw [here, ← same]
        exact List.mem_map_of_mem later
    · rw [replaceFirst, if_neg here] at member
      rcases List.mem_cons.mp member with rfl | later
      · exact .inr ⟨List.mem_cons_self, here⟩
      · rcases ih others later with same | ⟨old, other⟩
        · exact .inl same
        · exact .inr ⟨List.mem_cons_of_mem _ old, other⟩

end

end RecordQuery.Store
