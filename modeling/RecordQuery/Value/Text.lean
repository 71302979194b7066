import RecordQuery.Decimal.Text
import RecordQuery.Text.Quoted
import RecordQuery.Value

/-! The two texts of a value: the one that text tests look at and the one shown in formulas. -/
namespace RecordQuery.Value

def toText? : Value → Option String
  | null => none
  | bool b => some (if b then "true" else "false")
  | number d => some d.toText
  | uuid u => some u.toText
  | instant t => some t.toText
  | text s => some s

/-- A value as formulas show it: texts, uuids and instants between double quotes. -/
def shown : Value → String
  | null => "null"
  | bool b => if b then "true" else "false"
  | number d => d.toText
  | uuid u => "\"" ++ u.toText ++ "\""
  | instant t => "\"" ++ t.toText ++ "\""
  | text s => quoteLiteral s

end RecordQuery.Value
