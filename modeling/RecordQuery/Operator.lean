import RecordQuery.TextTest

/-! The table of operators that a condition may name. -/
namespace RecordQuery

inductive Comparison where
  | eq | ne | lt | le | gt | ge
  deriving DecidableEq, Repr

namespace Comparison

def symbol : Comparison → String
  | eq => "=="
  | ne => "!="
  | lt => "<"
  | le => "<="
  | gt => ">"
  | ge => ">="

def holds : Comparison → Ordering → Bool
  | eq, order => order == .eq
  | ne, order => order != .eq
  | lt, order => order == .lt
  | le, order => order != .gt
  | gt, order => order == .gt
  | ge, order => order != .lt

end Comparison

inductive Operator where
  | eq | neq | lt | lte | gt | gte
  | isNull | isNotNull
  | startsWith | endsWith | contains | doesNotContain
  deriving DecidableEq, Repr

/-- What an operator asks of a field. -/
inductive Operator.Kind where
  | compare (comparison : Comparison)
  | nullCheck (negated : Bool)
  | textTest (test : TextTest) (negated : Bool)
  deriving DecidableEq, Repr

namespace Operator

def all : List Operator :=
  [eq, neq, lt, lte, gt, gte, isNull, isNotNull, startsWith, endsWith, contains, doesNotContain]

def symbol : Operator → String
  | eq => "eq"
  | neq => "neq"
  | lt => "lt"
  | lte => "lte"
  | gt => "gt"
  | gte => "gte"
  | isNull => "isNull"
  | isNotNull => "isNotNull"
  | startsWith => "startsWith"
  | endsWith => "endsWith"
  | contains => "contains"
  | doesNotContain => "doesNotContain"

/-- The operator with exactly that symbol. -/
def ofSymbol? (symbol : String) : Option Operator := all.find? fun op => op.symbol == symbol

def kind : Operator → Kind
  | eq => .compare .eq
  | neq => .compare .ne
  | lt => .compare .lt
  | lte => .compare .le
  | gt => .compare .gt
  | gte => .compare .ge
  | isNull => .nullCheck false
  | isNotNull => .nullCheck true
  | startsWith => .textTest .startsWith false
  | endsWith => .textTest .endsWith false
  | contains => .textTest .contains false
  | doesNotContain => .textTest .contains true

/-- Whether a condition with this operator must carry a value; null checks must not. -/
def takesValue (op : Operator) : Bool :=
  match op.kind with
  | .nullCheck _ => false
  | _ => true

end Operator

end RecordQuery
