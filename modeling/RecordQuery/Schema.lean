import RecordQuery.Value

/-! How the fields of a record are found by name and read. -/
namespace RecordQuery

inductive FieldKind where
  | string
  | i64
  | f64
  | decimal
  | bool
  | uuid
  | dateTimeUtc
  deriving DecidableEq, Repr

namespace FieldKind

def all : List FieldKind := [string, i64, f64, decimal, bool, uuid, dateTimeUtc]

def name : FieldKind → String
  | string => "String"
  | i64 => "I64"
  | f64 => "F64"
  | decimal => "Decimal"
  | bool => "Bool"
  | uuid => "Uuid"
  | dateTimeUtc => "DateTimeUtc"

/-- Whether a literal can be compared with a field of this kind. A text can be compared with a uuid
or an instant, which it is read as. -/
def accepts : FieldKind → Value → Bool
  | _, .null => true
  | string, .text _ => true
  | i64, .number _ | f64, .number _ | decimal, .number _ => true
  | bool, .bool _ => true
  | uuid, .uuid _ | uuid, .text _ => true
  | dateTimeUtc, .instant _ | dateTimeUtc, .text _ => true
  | _, _ => false

end FieldKind

/-- A field of records of type `α`. It reads nothing where a record has no value for it. -/
structure Field (α : Type) where
  read : α → Option Value
  kind : Option FieldKind

def Field.value? (f : Field α) (record : α) : Option Value :=
  (f.read record).filter fun v => !v.isNull

abbrev Schema (α : Type) := String → Option (Field α)

end RecordQuery
