import RecordQuery.Registry
import RecordQuery.Value.Json

/-! Members of JSON records read as values of a given kind. -/
namespace RecordQuery.Json

def Number.toReal? : Number → Option Binary64
  | .int n => Binary64.nearest? (n < 0) ⟨n.natAbs, 0⟩
  | .real x => some x

/-- A value of that kind, or nothing where the JSON value has another form. Decimals, uuids and
instants are written as strings. -/
def readAs : FieldKind → Json → Option Value
  | .string, .string s => some (.text s)
  | .i64, .number (.int n) => if n ≤ maxInt64 then some (.ofInt n) else none
  | .f64, .number n => n.toReal?.map fun x => .ofReal (some x)
  | .decimal, .string s => (Decimal.ofText? s).map .number
  | .bool, .bool b => some (.bool b)
  | .uuid, .string s => (Uuid.ofText? s).map .uuid
  | .dateTimeUtc, .string s => (Instant.ofText? s).map .instant
  | _, _ => none

def readMember (name : String) (read : Json → Option Value) (record : Json) : Option Value :=
  (record.member? name).bind read

end RecordQuery.Json
