import RecordQuery.Binary64.Shortest
import RecordQuery.Instant
import RecordQuery.Uuid

/-! Scalar values, their partial order and their equality. -/
namespace RecordQuery

inductive Value where
  | null
  | bool (b : Bool)
  | number (d : Decimal)
  | uuid (u : Uuid)
  | instant (t : Instant)
  | text (s : String)
  deriving Repr, Inhabited

namespace Value

def isNull : Value → Bool
  | null => true
  | _ => false

/-- The name of a value's type in messages. -/
def typeName : Value → String
  | null => "null"
  | bool _ => "bool"
  | number _ => "number"
  | uuid _ => "uuid"
  | instant _ => "datetime"
  | text _ => "string"

/-- Order of two values of one type; a text is read as a uuid or an instant where the other value
is one. Values of other types, nulls and unreadable texts have no order. -/
def compare : Value → Value → Option Ordering
  | bool a, bool b => some (Ord.compare a b)
  | number a, number b => some (a.compare b)
  | text a, text b => some (Ord.compare a b)
  | uuid a, uuid b => some (a.compare b)
  | instant a, instant b => some (a.compare b)
  | uuid a, text s => (Uuid.ofText? s).map fun b => a.compare b
  | text s, uuid b => (Uuid.ofText? s).map fun a => a.compare b
  | instant a, text s => (Instant.ofText? s).map fun b => a.compare b
  | text s, instant b => (Instant.ofText? s).map fun a => a.compare b
  | _, _ => none

def same : Value → Value → Bool
  | null, null => true
  | bool a, bool b => a == b
  | number a, number b => a.sameValue b
  | uuid a, uuid b => a == b
  | instant a, instant b => a == b
  | text a, text b => a == b
  | _, _ => false

instance : BEq Value := ⟨same⟩

def ofInt (n : Int) : Value := number (.ofInt n)

/-- A floating-point number by the fewest digits that read back, written out positionally; null
stands for one that is not finite. -/
def ofReal : Option Binary64 → Value
  | some x => number x.toDecimal
  | none => null

end Value

end RecordQuery
