import RecordQuery.BindError
import RecordQuery.Limits
import RecordQuery.Text.Blank

/-! Sort keys, the first being primary, and the comparison of records by them. -/
namespace RecordQuery

structure SortKey where
  field : String
  direction : Direction
  deriving DecidableEq, Repr

structure BoundKey (α : Type) where
  field : Field α
  direction : Direction

namespace SortKey

def directionOf (word : String) : Except RequestError Direction :=
  match Direction.ofKeyword? word with
  | some direction => .ok direction
  | none => .error (.invalidSortDirection word)

def ofEntry (entry : SortEntry) : Except RequestError SortKey := do
  if isBlankText entry.field then throw .invalidSortField
  let direction ← directionOf entry.direction
  return ⟨entry.field, direction⟩

/-- The keys of a list of entries; the first bad entry decides the error. -/
def ofEntries (limits : Limits) (entries : List SortEntry) :
    Except RequestError (List SortKey) := do
  limits.checkSortFields entries.length
  entries.mapM ofEntry

def ensureTiebreaker (field : String) (direction : Direction) (keys : List SortKey) :
    List SortKey :=
  if keys.any fun k => k.field == field then keys else keys ++ [⟨field, direction⟩]

/-- The keys as `name asc,age desc`. -/
def listText (keys : List SortKey) : String :=
  ",".intercalate (keys.map fun k => k.field ++ " " ++ k.direction.keyword)

def bind (schema : Schema α) (key : SortKey) : Except BindError (BoundKey α) :=
  match schema key.field with
  | some field => .ok ⟨field, key.direction⟩
  | none => .error (.unknownField key.field)

def bindAll (schema : Schema α) (keys : List SortKey) : Except BindError (List (BoundKey α)) :=
  keys.mapM (bind schema)

end SortKey

/-- Nothing comes before every value; values without an order are equal. -/
def compareValues : Option Value → Option Value → Ordering
  | none, none => .eq
  | none, some _ => .lt
  | some _, none => .gt
  | some a, some b => (a.compare b).getD .eq

def Direction.apply : Direction → Ordering → Ordering
  | ascending, order => order
  | descending, order => order.swap

def BoundKey.compare (key : BoundKey α) (a b : α) : Ordering :=
  key.direction.apply (compareValues (key.field.value? a) (key.field.value? b))

def compareRecords : List (BoundKey α) → α → α → Ordering
  | [], _, _ => .eq
  | key :: rest, a, b => (key.compare a b).then (compareRecords rest a b)

/-- Puts an element into a list sorted backwards, in front of the elements that it is not less
than. -/
def insertBackwards (compare : α → α → Ordering) (x : α) : List α → List α
  | [] => [x]
  | y :: rest => if compare x y = .lt then y :: insertBackwards compare x rest else x :: y :: rest

/-- Sorts by insertion, each element moving back only past those that it is less than. -/
def insertionSort (compare : α → α → Ordering) (xs : List α) : List α :=
  (xs.foldl (fun sorted x => insertBackwards compare x sorted) []).reverse

def insertionLimit : Nat := 20

/-- Sorts short lists by insertion and long ones by merging; elements that compare equal keep their
order. The two ways agree on a total order, and on any other the short lists still have a definite
result. What becomes of a long list that the comparison does not order is left open: a sort may give
it back in any order or give up on it. The merge stands for the first, and `sort?` gives up. -/
def stableSort (compare : α → α → Ordering) (xs : List α) : List α :=
  if xs.length ≤ insertionLimit then insertionSort compare xs
  else xs.mergeSort fun a b => compare a b != .gt

/-- The comparison is a total preorder of the elements. -/
def Orders (compare : α → α → Ordering) (xs : List α) : Prop :=
  ∀ x ∈ xs, ∀ y ∈ xs, compare x y = (compare y x).swap ∧
    (compare x y ≠ .gt → ∀ z ∈ xs, compare y z ≠ .gt → compare x z ≠ .gt)

instance (compare : α → α → Ordering) (xs : List α) : Decidable (Orders compare xs) :=
  inferInstanceAs (Decidable (∀ x ∈ xs, ∀ y ∈ xs, compare x y = (compare y x).swap ∧
    (compare x y ≠ .gt → ∀ z ∈ xs, compare y z ≠ .gt → compare x z ≠ .gt)))

/-- Sorts as above, but gives up on a long list that the comparison does not order. -/
def sort? (compare : α → α → Ordering) (xs : List α) : Option (List α) :=
  if xs.length ≤ insertionLimit ∨ Orders compare xs then some (stableSort compare xs) else none

end RecordQuery
