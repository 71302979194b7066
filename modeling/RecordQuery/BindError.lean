import RecordQuery.Formula
import RecordQuery.Schema

/-! Why a formula or a sort key does not fit the records. -/
namespace RecordQuery

inductive BindError where
  | unknownField (path : String)
  | unboundPlaceholder (expected found : Placeholder)
  | unknownSlot (index : Nat)
  /-- What is `got` is the type of a literal, or a field that holds no text. -/
  | typeMismatch (field : String) (expected : FieldKind) (got : String)
  | bareValue
  | nestedOperand
  deriving DecidableEq, Repr

def BindError.messageWith (name : Placeholder → String) : BindError → String
  | unknownField path => "unknown field: " ++ path
  | unboundPlaceholder expected found =>
    "placeholder " ++ name found ++ " is not bound by this predicate (expected " ++
      name expected ++ ")"
  | unknownSlot index => "no value bound for positional slot @" ++ toString index
  | typeMismatch field expected got =>
    "type mismatch for field " ++ field ++ ": expected " ++ expected.name ++ ", got " ++ got
  | bareValue => "unsupported expression: a bare value is not a predicate"
  | nestedOperand => "unsupported expression: operand must be a field or a value"

def BindError.message (e : BindError) : String := e.messageWith Placeholder.name

end RecordQuery
