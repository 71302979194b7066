import RecordQuery.FetchError
import RecordQuery.Schema

/-! A list of records in the order in which they were added. A record is found again by its key; of
several with one key the first is found. Operations write to the rows in place, one write after the
other. -/
namespace RecordQuery

/-- Records that have a key, and the text of keys in messages. -/
class Keyed (α : Type) (κ : outParam Type) where
  key : α → κ
  keyText : κ → String

structure Store (α : Type) where
  schema : Schema α
  rows : List α

/-- What is done to rows. Where it fails, the rows are what they have become by then. -/
abbrev Operation (α β : Type) := ExceptT SourceError (StateM (List α)) β

namespace Store

variable {α β κ : Type} [Keyed α κ] [DecidableEq κ]

def size (store : Store α) : Nat := store.rows.length

/-- The result of an operation, and the store that it leaves. -/
def perform (store : Store α) (operation : Operation α β) : Except SourceError β × Store α :=
  let (result, rows) := operation.run.run store.rows
  (result, { store with rows := rows })

def hasKey (k : κ) (row : α) : Bool := Keyed.key row = k

def notFound (α : Type) {κ : Type} [Keyed α κ] (k : κ) : SourceError :=
  .notFound (Keyed.keyText (α := α) k)

def position (rows : List α) (k : κ) : Except SourceError (Fin rows.length) :=
  match rows.findFinIdx? (hasKey k) with
  | some i => .ok i
  | none => .error (notFound α k)

def positions (rows entities : List α) : Except SourceError (List (Fin rows.length)) :=
  entities.mapM fun e => position rows (Keyed.key e)

end Store

namespace Operation

variable {α κ : Type} [Keyed α κ] [DecidableEq κ]

def add (entity : α) : Operation α α := do
  modify fun rows => rows ++ [entity]
  return entity

def addRange (entities : List α) : Operation α (List α) := do
  modify fun rows => rows ++ entities
  return entities

def put (i : Nat) (entity : α) : Operation α Unit := modify fun rows => rows.set i entity

def update (entity : α) : Operation α α := do
  let i ← Store.position (← get) (Keyed.key entity)
  put i entity
  return entity

/-- Puts records in the place of the rows with their keys. All places are looked up before the first
record is put into one. -/
def updateRange (entities : List α) : Operation α (List α) := do
  let places ← Store.positions (← get) entities
  (places.zip entities).forM fun (i, e) => put i e
  return entities

/-- Takes out the row with the key of a record, and returns it. -/
def delete (entity : α) : Operation α α := do
  let rows ← get
  let i ← Store.position rows (Keyed.key entity)
  set (rows.eraseIdx i)
  return rows[i]

/-- Takes out every row with the key of one of the records, and returns these rows in the order of
the store. That each key is there is found out before. -/
def deleteRange (entities : List α) : Operation α (List α) := do
  let keys := entities.map Keyed.key
  let rows ← get
  match keys.find? fun k => !rows.any (Store.hasKey k) with
  | some k => throw (Store.notFound α k)
  | none =>
    let (removed, kept) := rows.partition fun row => decide (Keyed.key row ∈ keys)
    set kept
    return removed

end Operation

end RecordQuery
