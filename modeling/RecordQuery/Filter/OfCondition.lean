import RecordQuery.Filter
import RecordQuery.Limits
import RecordQuery.Text.Blank

/-! The filter of a condition tree. The node at position `i` in preorder is a test of its field
against slot `i`, which holds the node's value; a null check leaves its slot empty. A node with
children is its own test joined by its logic to the tests of all its children. -/
namespace RecordQuery

namespace Condition

def operatorOf (symbol : String) : Except RequestError Operator :=
  match Operator.ofSymbol? symbol with
  | some op => .ok op
  | none => .error (.invalidOperator symbol)

def checkValue (c : Condition) (op : Operator) : Except RequestError Unit :=
  match op.takesValue, c.operand? with
  | true, none => .error (.missingValue c.field c.operator)
  | false, some _ => .error (.unexpectedValue c.field c.operator)
  | _, _ => .ok ()

/-- The logic that joins the children; it is not looked at where there are none. -/
def childLogic (c : Condition) : Except RequestError (Option Logic) :=
  if c.children.isEmpty then .ok none
  else
    match c.logic.bind Logic.ofKeyword? with
    | some logic => .ok (some logic)
    | none => .error (.invalidLogic c.field c.logic)

/-- What a node says, apart from its children, if nothing is wrong with it. It is the node number
`count` of the tree, counted from 1. -/
def check (limits : Limits) (depth count : Nat) (c : Condition) :
    Except RequestError (Operator × Option Logic) := do
  limits.checkDepth depth
  limits.checkConditions count
  if isBlankText c.field then throw .invalidField
  let op ← operatorOf c.operator
  c.checkValue op
  let logic ← c.childLogic
  return (op, logic)

end Condition

namespace Formula

def ofOperator (record : Placeholder) (path : String) (op : Operator) (index : Nat) : Formula :=
  match op.kind with
  | .compare comparison => compare (field record path) comparison (slot index)
  | .nullCheck negated =>
    compare (field record path) (if negated then .ne else .eq) (literal .null)
  | .textTest test negated => textTest test negated (field record path) (slot index)

/-- A formula joined to a chain of others, which hang together from the left. -/
def joinAll (own : Formula) (logic : Option Logic) : List Formula → Formula
  | [] => own
  | f :: fs =>
    match logic with
    | some logic => join logic own (fs.foldl (join logic) f)
    | none => own

end Formula

namespace Condition

mutual

/-- The formula of a tree whose nodes are numbered from `seen` on, and the values of its slots. -/
def compile (limits : Limits) (record : Placeholder) (depth seen : Nat) :
    Condition → Except RequestError (Formula × List (Option Value))
  | node field operator value logic children => do
    let c := node field operator value logic children
    let (op, logic) ← c.check limits depth (seen + 1)
    let (tests, slots) ← compileAll limits record (depth + 1) (seen + 1) children
    let own := Formula.ofOperator record field op seen
    return (own.joinAll logic tests, c.operand? :: slots)

def compileAll (limits : Limits) (record : Placeholder) (depth seen : Nat) :
    List Condition → Except RequestError (List Formula × List (Option Value))
  | [] => .ok ([], [])
  | c :: cs => do
    let (test, slots) ← compile limits record depth seen c
    let (tests, more) ← compileAll limits record depth (seen + slots.length) cs
    return (test :: tests, slots ++ more)

end

end Condition

def Filter.ofCondition (limits : Limits) (record : Placeholder) (root : Condition) :
    Except RequestError Filter := do
  let (body, slots) ← root.compile limits record 1 0
  return ⟨⟨record, body⟩, slots⟩

end RecordQuery
