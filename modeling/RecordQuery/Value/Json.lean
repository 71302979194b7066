import RecordQuery.Json.Number
import RecordQuery.Value.Text

/-! Values as JSON. A scalar is read as a value; uuids and instants are written as strings, and so
are numbers too large for a JSON number. -/
namespace RecordQuery

inductive ValueError where
  | notScalar (kind : String)
  deriving DecidableEq, Repr

def ValueError.message : ValueError → String
  | notScalar kind => "value must be a scalar, got " ++ kind

namespace Value

def ofJson : Json → Except ValueError Value
  | .null => .ok null
  | .bool b => .ok (bool b)
  | .number n => .ok (number n.toDecimal)
  | .string s => .ok (text s)
  | .array _ => .error (.notScalar "array")
  | .object _ => .error (.notScalar "object")

def toJson : Value → Json
  | null => .null
  | bool b => .bool b
  | number d =>
    match Json.Number.ofDecimal? d with
    | some n => .number n
    | none => .string d.toText
  | uuid u => .string u.toText
  | instant t => .string t.toText
  | text s => .string s

end Value

end RecordQuery
