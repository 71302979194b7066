import RecordQuery.Selection
import RecordQuery.Registry

/-! One-line summaries of things that hold functions, which have no text of their own. -/
namespace RecordQuery

/-- A name and, in braces, what is told about the thing. -/
def summary (name : String) (parts : List String) : String :=
  name ++ " \x7b " ++ ", ".intercalate parts ++ " \x7d"

def rest : String := ".."

def FieldKind.summary : Option FieldKind → String
  | some kind => "Some(" ++ kind.name ++ ")"
  | none => "None"

/-- The lower-case names in order. -/
def Registry.names (registry : Registry α) : List String :=
  (registry.entries.map (·.1)).mergeSort fun a b => !(decide (b < a))

def Registry.summary (registry : Registry α) : String :=
  RecordQuery.summary "FieldRegistry"
    ["fields: [" ++ ", ".intercalate (registry.names.map quoteName) ++ "]"]

def Field.summary (f : Field α) : String :=
  RecordQuery.summary "ResolvedField" ["kind: " ++ FieldKind.summary f.kind, rest]

def Store.summary (store : Store α) : String :=
  RecordQuery.summary "MemoryStore" ["rows: " ++ toString store.size, rest]

def Selection.summary (s : Selection α) : String :=
  RecordQuery.summary "MemoryQuery" ["steps: " ++ toString s.steps.length, rest]

def testSummary : String := RecordQuery.summary "BoundPredicate" [rest]

def keysSummary (keys : List (BoundKey α)) : String :=
  RecordQuery.summary "BoundOrder" ["keys: " ++ toString keys.length, rest]

end RecordQuery
