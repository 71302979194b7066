import RecordQuery.Proofs.StoreRows

/-! The history of a store. As long as no record is added under a key that is there, the rows are a
map in the order of insertion: for each key that has been added and not deleted since, in the order
of these additions, the record last written for it. -/
namespace RecordQuery

/-- What happens to one record, or to the row with its key. -/
inductive Event (α : Type) where
  | added (record : α)
  | updated (record : α)
  | deleted (record : α)

inductive Change (α : Type) where
  | add (record : α)
  | addRange (records : List α)
  | update (record : α)
  | updateRange (records : List α)
  | delete (record : α)
  | deleteRange (records : List α)

namespace Change

/-- What a change does if it succeeds, record by record. -/
def events : Change α → List (Event α)
  | add e => [.added e]
  | addRange es => es.map .added
  | update e => [.updated e]
  | updateRange es => es.map .updated
  | delete e => [.deleted e]
  | deleteRange es => es.map .deleted

def additions : Change α → List α
  | add e => [e]
  | addRange es => es
  | _ => []

/-- The records whose keys must be there. -/
def targets : Change α → List α
  | update e | delete e => [e]
  | updateRange es | deleteRange es => es
  | _ => []

end Change

variable {α κ : Type} [Keyed α κ] [DecidableEq κ]

def Change.operation : Change α → Operation α (List α)
  | add e => List.singleton <$> .add e
  | addRange es => .addRange es
  | update e => List.singleton <$> .update e
  | updateRange es => .updateRange es
  | delete e => List.singleton <$> .delete e
  | deleteRange es => .deleteRange es

namespace Event

/-- Whether the key gets a new place, or loses the one it has. -/
def moves (k : κ) : Event α → Bool
  | added e | deleted e => Keyed.key e = k
  | updated _ => false

/-- The key that gets a place behind all others. -/
def placed : Event α → List κ
  | added e => [Keyed.key e]
  | _ => []

def written? (k : κ) : Event α → Option α
  | added e | updated e => if Keyed.key e = k then some e else none
  | deleted _ => none

def run (rows : List α) : Event α → List α
  | added e => rows ++ [e]
  | updated e => Store.replaceFirst e rows
  | deleted e => rows.eraseP (Store.hasKey (Keyed.key e))

end Event

/-- The keys that have been added and not deleted since, in the order of their last additions. -/
def standing : List (Event α) → List κ
  | [] => []
  | .added e :: later =>
    if later.any (Event.moves (Keyed.key e)) then standing later
    else Keyed.key e :: standing later
  | _ :: later => standing later

def lastWritten (k : κ) (events : List (Event α)) : Option α :=
  (events.filterMap (Event.written? k)).getLast?

theorem mem_standing {events : List (Event α)} {k : κ} (member : k ∈ standing events) :
    events.any (Event.moves k) = true := by
  fun_induction standing events with
  | case1 => cases member
  | case2 e later moved ih => rw [List.any_cons, ih member, Bool.or_true]
  | case3 e later still ih =>
    rcases List.mem_cons.mp member with rfl | after
    · simp [Event.moves]
    · rw [List.any_cons, ih after, Bool.or_true]
  | case4 event later other ih => rw [List.any_cons, ih member, Bool.or_true]

theorem standing_nodup (events : List (Event α)) : (standing events).Nodup := by
  fun_induction standing events with
  | case1 => exact List.nodup_nil
  | case2 e later moved ih => exact ih
  | case3 e later still ih =>
    exact List.nodup_cons.mpr ⟨fun again => still (mem_standing again), ih⟩
  | case4 event later other ih => exact ih

theorem standing_snoc (events : List (Event α)) (event : Event α) :
    standing (events ++ [event]) =
      (standing events).filter (fun k => !event.moves k) ++ event.placed := by
  induction events with
  | nil => cases event <;> rfl
  | cons first later ih =>
    cases first with
    | updated | deleted => exact ih
    | added e =>
      -- the first addition counts unless something later moves its key, and the new event may
      rw [List.cons_append, standing, standing, List.any_append, ih]
      by_cases moved : later.any (Event.moves (Keyed.key e)) = true
      · simp [moved]
      · by_cases last : event.moves (Keyed.key e) = true <;> simp [moved, last]

theorem lastWritten_snoc (k : κ) (events : List (Event α)) (event : Event α) :
    lastWritten k (events ++ [event]) = (event.written? k).or (lastWritten k events) := by
  cases written : event.written? k <;>
    simp [lastWritten, List.filterMap_append, written]

/-- The rows are those that the events have led to. -/
structure Reflects (events : List (Event α)) (rows : List α) : Prop where
  keys : rows.map Keyed.key = standing events
  records : ∀ row ∈ rows, lastWritten (Keyed.key row) events = some row

namespace Reflects

variable {events : List (Event α)} {rows : List α}

theorem distinct (reflects : Reflects events rows) : (rows.map Keyed.key).Nodup :=
  reflects.keys ▸ standing_nodup events

theorem added {e : α} (reflects : Reflects events rows) (fresh : Keyed.key e ∉ rows.map Keyed.key) :
    Reflects (events ++ [.added e]) (rows ++ [e]) := by
  constructor
  · have kept : ∀ k ∈ standing events, (!Event.moves k (.added e)) = true := by
      intro k member
      rw [← reflects.keys] at member
      simpa [Event.moves] using fun same : Keyed.key e = k => fresh (same ▸ member)
    rw [standing_snoc, List.filter_eq_self.mpr kept, List.map_append, reflects.keys]
    rfl
  · intro row member
    rw [lastWritten_snoc]
    rcases List.mem_append.mp member with old | new
    · have other : Keyed.key e ≠ Keyed.key row := fun same =>
        fresh (same ▸ List.mem_map_of_mem old)
      rw [Event.written?, if_neg other, Option.none_or]
      exact reflects.records row old
    · obtain rfl := List.mem_singleton.mp new
      rw [Event.written?, if_pos rfl, Option.some_or]

theorem updated {e : α} (reflects : Reflects events rows) :
    Reflects (events ++ [.updated e]) (Store.replaceFirst e rows) := by
  constructor
  · have kept : ∀ k ∈ standing events, (!Event.moves k (.updated e)) = true := fun _ _ => rfl
    rw [standing_snoc, List.filter_eq_self.mpr kept, Store.keys_replaceFirst, reflects.keys]
    exact (List.append_nil _).symm
  · intro row member
    rw [lastWritten_snoc]
    rcases Store.mem_replaceFirst reflects.distinct member with rfl | ⟨old, other⟩
    · rw [Event.written?, if_pos rfl, Option.some_or]
    · rw [Event.written?, if_neg (Ne.symm other), Option.none_or]
      exact reflects.records row old

theorem deleted {e : α} (reflects : Reflects events rows) :
    Reflects (events ++ [.deleted e]) (rows.eraseP (Store.hasKey (Keyed.key e))) := by
  rw [Store.eraseP_hasKey reflects.distinct]
  constructor
  · have others (k : κ) : (!Event.moves k (.deleted e)) = decide (k ≠ Keyed.key e) := by
      simp [Event.moves, eq_comm]
    rw [standing_snoc, ← reflects.keys, List.filter_map]
    simp only [others]
    exact (List.append_nil _).symm
  · intro row member
    rw [lastWritten_snoc]
    exact reflects.records row (List.mem_filter.mp member).1

theorem step {event : Event α} (reflects : Reflects events rows)
    (fresh : ∀ k ∈ event.placed, k ∉ rows.map Keyed.key) :
    Reflects (events ++ [event]) (event.run rows) := by
  cases event with
  | added e => exact reflects.added (fresh _ List.mem_cons_self)
  | updated e => exact reflects.updated
  | deleted e => exact reflects.deleted

end Reflects

/-- No record is added under a key that is there. -/
def Orderly : List α → List (Event α) → Prop
  | _, [] => True
  | rows, event :: later =>
    (∀ k ∈ event.placed, k ∉ rows.map Keyed.key) ∧ Orderly (event.run rows) later

theorem Reflects.run {events batch : List (Event α)} {rows : List α}
    (reflects : Reflects events rows) (orderly : Orderly rows batch) :
    Reflects (events ++ batch) (batch.foldl Event.run rows) := by
  induction batch generalizing events rows with
  | nil => rwa [List.append_nil]
  | cons event later ih =>
    have rest := ih (reflects.step orderly.1) orderly.2
    rwa [List.append_assoc] at rest

theorem orderly_of_placed {batch : List (Event α)} (rows : List α)
    (stays : ∀ event ∈ batch, event.placed = []) : Orderly rows batch := by
  induction batch generalizing rows with
  | nil => trivial
  | cons event later ih =>
    obtain ⟨here, after⟩ := List.forall_mem_cons.mp stays
    exact ⟨fun k placed => by simp [here] at placed, ih _ after⟩

theorem orderly_added {rows es : List α} (distinct : (es.map Keyed.key).Nodup)
    (fresh : ∀ e ∈ es, Keyed.key e ∉ rows.map Keyed.key) :
    Orderly rows (es.map Event.added) := by
  induction es generalizing rows with
  | nil => trivial
  | cons e es ih =>
    obtain ⟨new, others⟩ := List.nodup_cons.mp distinct
    obtain ⟨first, rest⟩ := List.forall_mem_cons.mp fresh
    refine ⟨fun k placed => List.mem_singleton.mp placed ▸ first, ih others ?_⟩
    intro d member present
    rw [Event.run, List.map_append] at present
    rcases List.mem_append.mp present with old | same
    · exact rest d member old
    · exact new (List.mem_singleton.mp same ▸ List.mem_map_of_mem member)

namespace Store

/-- Each added record has a key that is not in the store and not twice among them. -/
def Fresh (store : Store α) (change : Change α) : Prop :=
  (change.additions.map Keyed.key).Nodup ∧ ∀ e ∈ change.additions, Keyed.key e ∉ store.keys

/-- The records that a change returns, or its error, and the store after it. -/
def attempt (store : Store α) (change : Change α) : Except SourceError (List α) × Store α :=
  store.perform change.operation

def eventsOf (store : Store α) (change : Change α) : List (Event α) :=
  match (store.attempt change).1 with
  | .ok _ => change.events
  | .error _ => []

theorem orderly_events {store : Store α} {change : Change α} (fresh : store.Fresh change) :
    Orderly store.rows change.events := by
  cases change with
  | add e =>
    change Orderly store.rows ([e].map Event.added)
    exact orderly_added fresh.1 fresh.2
  | addRange es => exact orderly_added fresh.1 fresh.2
  | update | delete =>
    refine orderly_of_placed _ fun event member => ?_
    rw [List.mem_singleton.mp member]
    rfl
  | updateRange | deleteRange =>
    refine orderly_of_placed _ fun event member => ?_
    obtain ⟨e, -, rfl⟩ := List.mem_map.mp member
    rfl

theorem all_present (store : Store α) (es : List α) :
    es.findSome? (missing store.rows) = none ↔ ∀ e ∈ es, Keyed.key e ∈ store.keys := by
  simp only [List.findSome?_eq_none_iff, missing_eq_none, keys]

/-- A change fails exactly if a record that it is about has no row, for the first such record, and
then it has written nothing. -/
theorem attempt_eq_error {store next : Store α} {change : Change α} {error : SourceError} :
    store.attempt change = (.error error, next) ↔
      change.targets.findSome? (missing store.rows) = some error ∧ next = store := by
  have single (e : α) : [e].findSome? (missing store.rows) = missing store.rows e :=
    List.findSome?_singleton
  cases change with
  | add | addRange => exact ⟨nofun, nofun⟩
  | update e =>
    rw [attempt, Change.operation, perform_map_eq_error, perform_update, settle_eq_error,
      Change.targets, single]
  | delete e =>
    rw [attempt, Change.operation, perform_map_eq_error, delete_eq_error, Change.targets, single]
  | updateRange es =>
    rw [attempt, Change.operation, perform_updateRange, settle_eq_error, Change.targets]
  | deleteRange es =>
    rw [attempt, Change.operation, perform_deleteRange, settle_eq_error, Change.targets]

theorem attempt_ok_iff (store : Store α) (change : Change α) :
    (∃ made, (store.attempt change).1 = .ok made) ↔
      ∀ e ∈ change.targets, Keyed.key e ∈ store.keys := by
  rw [← all_present]
  rcases attempted : store.attempt change with ⟨error | made, next⟩
  · rw [(attempt_eq_error.mp attempted).1]
    exact ⟨nofun, nofun⟩
  · refine ⟨fun _ => ?_, fun _ => ⟨made, rfl⟩⟩
    by_contra missed
    obtain ⟨error, found⟩ := Option.ne_none_iff_exists'.mp missed
    rw [attempt_eq_error.mpr ⟨found, rfl⟩] at attempted
    cases attempted

/-- From rows with distinct keys several records are taken out by taking out each in turn. -/
theorem foldl_eraseP {rows : List α} (distinct : (rows.map Keyed.key).Nodup) (es : List α) :
    es.foldl (fun rows e => rows.eraseP (hasKey (Keyed.key e))) rows =
      rows.filter fun row => Keyed.key row ∉ es.map Keyed.key := by
  induction es generalizing rows with
  | nil => simp
  | cons e es ih =>
    have fewer : ((rows.eraseP (hasKey (Keyed.key e))).map Keyed.key).Nodup :=
      distinct.sublist (List.eraseP_sublist.map _)
    rw [List.foldl_cons, ih fewer, eraseP_hasKey distinct, List.filter_filter]
    refine List.filter_congr fun row _ => ?_
    simp [Bool.and_comm]

theorem attempt_rows {store next : Store α} {change : Change α} {returned : List α}
    (distinct : (store.rows.map Keyed.key).Nodup)
    (made : store.attempt change = (.ok returned, next)) :
    next.rows = change.events.foldl Event.run store.rows := by
  cases change with
  | add e =>
    cases made
    rfl
  | addRange es =>
    cases made
    simp only [Change.events, List.foldl_map, Event.run, List.foldl_append_eq_append]
    exact congrArg (store.rows ++ ·) (List.flatMap_singleton' _).symm
  | update e =>
    obtain ⟨_, passed, -⟩ := perform_map_eq_ok.mp made
    rw [perform_update] at passed
    rw [(settle_eq_ok.mp passed).2.2]
    rfl
  | updateRange es =>
    rw [attempt, Change.operation, perform_updateRange] at made
    rw [(settle_eq_ok.mp made).2.2, Change.events, List.foldl_map]
    rfl
  | delete e =>
    obtain ⟨_, passed, -⟩ := perform_map_eq_ok.mp made
    rw [(delete_eq_ok.mp passed).2]
    rfl
  | deleteRange es =>
    rw [attempt, Change.operation, perform_deleteRange] at made
    rw [(settle_eq_ok.mp made).2.2, Change.events, List.foldl_map]
    exact (foldl_eraseP distinct es).symm

end Store

/-- The runs of a store that starts empty, with all that has happened in them. After a change that
fails, a run goes on with what that change has left. -/
inductive Run (schema : Schema α) : List (Event α) → Store α → Prop where
  | empty : Run schema [] ⟨schema, []⟩
  | step {events : List (Event α)} {store : Store α} (change : Change α) :
      Run schema events store → store.Fresh change →
        Run schema (events ++ store.eventsOf change) (store.attempt change).2

theorem Run.reflects {schema : Schema α} {events : List (Event α)} {store : Store α}
    (run : Run schema events store) : Reflects events store.rows := by
  induction run with
  | empty => exact ⟨rfl, fun _ member => nomatch member⟩
  | @step events store change _ fresh ih =>
    unfold Store.eventsOf
    rcases made : store.attempt change with ⟨error | returned, next⟩
    -- a change that fails is no event, and its error came before its first write
    · rw [(Store.attempt_eq_error.mp made).2, List.append_nil]
      exact ih
    · have moved := ih.run (Store.orderly_events fresh)
      rwa [← Store.attempt_rows ih.distinct made] at moved

/-- After every step of a run the keys of the rows are distinct. They are those that were added and
not deleted since, in the order in which they were last added, and the row of each is the record
last written for it. The next change succeeds exactly if the keys that it is about are there and
else has left the store as it was; and what a deletion returns is the row that is stored. -/
theorem run_exact {schema : Schema α} {events : List (Event α)} {store : Store α}
    (run : Run schema events store) :
    store.keys.Nodup ∧ store.keys = standing events ∧
    (∀ row ∈ store.rows, lastWritten (Keyed.key row) events = some row) ∧
    (∀ change, (∃ made, (store.attempt change).1 = .ok made) ↔
      ∀ e ∈ change.targets, Keyed.key e ∈ store.keys) ∧
    (∀ change error next, store.attempt change = (.error error, next) → next = store) ∧
    ∀ e row next, store.perform (.delete e) = (.ok row, next) →
      row ∈ store.rows ∧ Keyed.key row = Keyed.key e ∧
        lastWritten (Keyed.key e) events = some row := by
  have reflects := run.reflects
  refine ⟨reflects.distinct, reflects.keys, reflects.records, store.attempt_ok_iff, ?_, ?_⟩
  · intro change error next failed
    exact (Store.attempt_eq_error.mp failed).2
  · intro e row next deleted
    have found := (Store.delete_eq_ok.mp deleted).1
    have stored := List.mem_of_find?_eq_some found
    have same : Keyed.key row = Keyed.key e := by simpa [Store.hasKey] using List.find?_some found
    exact ⟨stored, same, same ▸ reflects.records row stored⟩

structure Item where
  id : Nat
  name : String
  deriving DecidableEq

instance : Keyed Item Nat := ⟨Item.id, toString⟩

/-- A key that is deleted and added again goes to the end, an update of several records keeps the
last one of each key, and a deletion or an update of which one key is missing does nothing. -/
theorem run_exact_items :
    ∃ events store, Run (fun _ => none) events store ∧
      store.rows = [(⟨2, "e"⟩ : Item), ⟨1, "c"⟩] ∧ standing events = [2, 1] ∧
      lastWritten 2 events = some ⟨2, "e"⟩ ∧
      store.attempt (.updateRange [⟨1, "f"⟩, ⟨3, "g"⟩]) =
        (.error (.notFound "3"), store) ∧
      ∃ next, store.perform (.delete ⟨2, "h"⟩) = (.ok ⟨2, "e"⟩, next) := by
  have start : Run (fun _ => none) ([] : List (Event Item)) ⟨fun _ => none, []⟩ := .empty
  have added := start.step (.addRange [⟨1, "a"⟩, ⟨2, "b"⟩]) ⟨by decide, by decide⟩
  have deleted := added.step (.delete ⟨1, "x"⟩) ⟨by decide, by decide⟩
  have again := deleted.step (.add ⟨1, "c"⟩) ⟨by decide, by decide⟩
  have updated := again.step (.updateRange [⟨2, "d"⟩, ⟨2, "e"⟩]) ⟨by decide, by decide⟩
  have run := updated.step (.deleteRange [⟨1, "y"⟩, ⟨3, "z"⟩]) ⟨by decide, by decide⟩
  obtain ⟨-, order, records, -, failing, -⟩ := run_exact run
  refine ⟨_, _, run, by decide, ?_, ?_, ?_, ?_⟩
  · rw [← order]
    decide
  · exact records ⟨2, "e"⟩ (by decide)
  · exact Prod.ext rfl (failing (.updateRange [⟨1, "f"⟩, ⟨3, "g"⟩]) (.notFound "3") _ rfl)
  · exact ⟨_, rfl⟩

end RecordQuery
