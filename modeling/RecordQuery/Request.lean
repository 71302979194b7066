import RecordQuery.Text.Quoted
import RecordQuery.Operator
import RecordQuery.Value

/-! Requests: a list of sort entries and a tree of conditions, with the caller's own words for
fields, operators, directions and logic. -/
namespace RecordQuery

inductive Logic where
  | and
  | or
  deriving DecidableEq, Repr

namespace Logic

def keyword : Logic → String
  | and => "and"
  | or => "or"

def ofKeyword? : String → Option Logic
  | "and" => some and
  | "or" => some or
  | _ => none

end Logic

inductive Direction where
  | ascending
  | descending
  deriving DecidableEq, Repr

namespace Direction

def keyword : Direction → String
  | ascending => "asc"
  | descending => "desc"

def ofKeyword? : String → Option Direction
  | "asc" => some ascending
  | "desc" => some descending
  | _ => none

end Direction

/-- One node of a filter; its logic joins it and all its children. -/
inductive Condition where
  | node (field operator : String) (value : Option Value) (logic : Option String)
      (children : List Condition)
  deriving Repr

namespace Condition

instance : Inhabited Condition := ⟨node "" "" none none []⟩

def field : Condition → String
  | node field _ _ _ _ => field

def operator : Condition → String
  | node _ operator _ _ _ => operator

def value : Condition → Option Value
  | node _ _ value _ _ => value

def logic : Condition → Option String
  | node _ _ _ logic _ => logic

def children : Condition → List Condition
  | node _ _ _ _ children => children

/-- The value, where null counts as absent. -/
def operand? (c : Condition) : Option Value := c.value.filter fun v => !v.isNull

def new (field operator : String) : Condition := node field operator none none []

def withValue (v : Value) : Condition → Condition
  | node field operator _ logic children => node field operator (some v) logic children

def withLogic (l : Logic) : Condition → Condition
  | node field operator value _ children => node field operator value (some l.keyword) children

def withChildren (cs : List Condition) : Condition → Condition
  | node field operator value logic children => node field operator value logic (children ++ cs)

mutual

/-- Equality of trees, of numbers in them by value. -/
def same : Condition → Condition → Bool
  | node f o v l cs, node f' o' v' l' cs' =>
    f == f' && o == o' && v == v' && l == l' && sameAll cs cs'

def sameAll : List Condition → List Condition → Bool
  | [], [] => true
  | c :: cs, d :: ds => same c d && sameAll cs ds
  | _, _ => false

end

end Condition

structure SortEntry where
  field : String
  direction : String
  deriving DecidableEq, Repr, Inhabited

namespace SortEntry

def new (field : String) (direction : Direction) : SortEntry := ⟨field, direction.keyword⟩

end SortEntry

/-- Sort entries, the first being primary, and the root of the filter if there is one. -/
structure Request where
  sort : List SortEntry
  filter : Option Condition
  deriving Repr

namespace Request

def empty : Request := ⟨[], none⟩

instance : Inhabited Request := ⟨empty⟩

def same (a b : Request) : Bool :=
  a.sort == b.sort &&
    match a.filter, b.filter with
    | none, none => true
    | some c, some d => c.same d
    | _, _ => false

end Request

inductive RequestError where
  | invalidField
  | invalidOperator (symbol : String)
  | invalidLogic (field : String) (logic : Option String)
  | missingValue (field operator : String)
  | unexpectedValue (field operator : String)
  | invalidSortField
  | invalidSortDirection (direction : String)
  | tooDeep (max : UInt64)
  | tooManyConditions (max : UInt64)
  | tooManySortFields (max : UInt64)
  deriving DecidableEq, Repr

def RequestError.message : RequestError → String
  | invalidField => "invalid field: field name must not be empty"
  | invalidOperator symbol => "invalid operator: " ++ quoteName symbol
  | invalidLogic field logic =>
    let shown := match logic with
      | some word => "Some(" ++ quoteName word ++ ")"
      | none => "None"
    "invalid logic " ++ shown ++ " on field " ++ field ++ ": expected \"and\" or \"or\""
  | missingValue field operator => "operator " ++ operator ++ " on field " ++ field ++
      " requires a value"
  | unexpectedValue field operator => "operator " ++ operator ++ " on field " ++ field ++
      " does not take a value"
  | invalidSortField => "invalid sort field: field name must not be empty"
  | invalidSortDirection direction =>
    "invalid sort direction " ++ quoteName direction ++ ": expected \"asc\" or \"desc\""
  | tooDeep max => "filter nesting exceeds maximum depth of " ++ toString max.toNat
  | tooManyConditions max => "filter exceeds maximum of " ++ toString max.toNat ++ " conditions"
  | tooManySortFields max => "too many sort fields (max: " ++ toString max.toNat ++ ")"

end RecordQuery
