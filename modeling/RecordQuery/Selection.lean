import RecordQuery.Binding
import RecordQuery.SortKey
import RecordQuery.Store

/-! Selections: steps that narrow, order and cut the rows of a store. Nothing runs before the rows
are counted or listed. -/
namespace RecordQuery

inductive Step (α : Type) where
  | filter (test : α → Truth)
  | order (keys : List (BoundKey α))
  | skip (n : UInt64)
  | take (n : UInt64)

def Step.run (rows : List α) : Step α → List α
  | filter test => rows.filter (isMatch test)
  | order keys => stableSort (compareRecords keys) rows
  | skip n => rows.drop n.toNat
  | take n => rows.take n.toNat

/-- A step that gives up where the rows cannot be sorted. -/
def Step.run? (rows : List α) : Step α → Option (List α)
  | order keys => sort? (compareRecords keys) rows
  | step => some (step.run rows)

/-- The steps, in the order in which they are taken, over the rows of a store. -/
structure Selection (α : Type) where
  store : Store α
  steps : List (Step α)

namespace Selection

def push (s : Selection α) (step : Step α) : Selection α := { s with steps := s.steps ++ [step] }

def filter (s : Selection α) (f : Filter) : Except SourceError (Selection α) :=
  match f.bind s.store.schema with
  | .ok test => .ok (s.push (.filter test))
  | .error e => .error (.bind e)

def order (s : Selection α) (keys : List SortKey) : Except SourceError (Selection α) :=
  match SortKey.bindAll s.store.schema keys with
  | .ok bound => .ok (s.push (.order bound))
  | .error e => .error (.bind e)

def skip (s : Selection α) (n : UInt64) : Selection α := s.push (.skip n)

def take (s : Selection α) (n : UInt64) : Selection α := s.push (.take n)

def rows (s : Selection α) : List α := s.steps.foldl Step.run s.store.rows

def rows? (s : Selection α) : Option (List α) := s.steps.foldlM Step.run? s.store.rows

def count (s : Selection α) : UInt64 := .ofNat s.rows.length

def onStore (s : Selection α) (store : Store α) : Selection α := { s with store := store }

end Selection

def Store.select (store : Store α) : Selection α := ⟨store, []⟩

end RecordQuery
