import RecordQuery.Filter
import RecordQuery.Truth
import RecordQuery.Value.Text

/-! Formulas bound to a schema. Binding finds every field once and checks literals against the
kinds of fields; what remains is a function from records to truth. -/
namespace RecordQuery

/-- One side of a comparison or a text test. -/
inductive Operand (α : Type) where
  | literal (v : Value)
  | field (path : String) (f : Field α)

namespace Operand

/-- The value for a record; null counts as nothing. -/
def value? : Operand α → α → Option Value
  | literal v, _ => if v.isNull then none else some v
  | field _ f, record => f.value? record

def isNullLiteral : Operand α → Bool
  | literal v => v.isNull
  | field _ _ => false

end Operand

/-- Fails where a field has a kind that does not accept the literal on the other side. -/
def checkLiteral : Operand α → Operand α → Except BindError Unit
  | .field path f, .literal v =>
    match f.kind with
    | some kind => if kind.accepts v then .ok () else .error (.typeMismatch path kind v.typeName)
    | none => .ok ()
  | _, _ => .ok ()

def checkText : Operand α → Except BindError Unit
  | .field path f =>
    match f.kind with
    | some .string | none => .ok ()
    | some _ => .error (.typeMismatch path .string "non-string field")
  | .literal _ => .ok ()

/-- Unknown if a value is missing or the two have no order. -/
def compareTruth (comparison : Comparison) : Option Value → Option Value → Truth
  | some a, some b =>
    match a.compare b with
    | some order => .ofBool (comparison.holds order)
    | none => .unknown
  | _, _ => .unknown

def textTruth (test : TextTest) (negated : Bool) (target argument : Option Value) : Truth :=
  match target.bind Value.toText?, argument.bind Value.toText? with
  | some text, some part => .ofBool (test.holds text part != negated)
  | _, _ => .unknown

def nullTruth (negated : Bool) (v : Option Value) : Truth := .ofBool (v.isNone != negated)

/-- A comparison for equality with a null literal, on the right or else on the left, is a null
check; any other comparison is of values. -/
def bindComparison (l : Operand α) (comparison : Comparison) (r : Operand α) :
    Except BindError (α → Truth) :=
  let isEquality := comparison == .eq || comparison == .ne
  if isEquality && r.isNullLiteral then
    .ok fun record => nullTruth (comparison == .ne) (l.value? record)
  else if isEquality && l.isNullLiteral then
    .ok fun record => nullTruth (comparison == .ne) (r.value? record)
  else do
    checkLiteral l r
    checkLiteral r l
    return fun record => compareTruth comparison (l.value? record) (r.value? record)

def bindTextTest (test : TextTest) (negated : Bool) (target argument : Operand α) :
    Except BindError (α → Truth) := do
  checkText target
  checkText argument
  return fun record => textTruth test negated (target.value? record) (argument.value? record)

def Logic.truth : Logic → Truth → Truth → Truth
  | and => Truth.and
  | or => Truth.or

namespace Formula

def operand (schema : Schema α) (record : Placeholder) (slots : List (Option Value)) :
    Formula → Except BindError (Operand α)
  | literal v => .ok (.literal v)
  | slot index => do
    let v ← slotValue slots index
    return .literal v
  | field p path =>
    if p ≠ record then .error (.unboundPlaceholder record p)
    else
      match schema path with
      | some f => .ok (.field path f)
      | none => .error (.unknownField path)
  | _ => .error .nestedOperand

def bind (schema : Schema α) (record : Placeholder) (slots : List (Option Value)) :
    Formula → Except BindError (α → Truth)
  | const b | literal (.bool b) => .ok fun _ => .ofBool b
  | literal _ | slot _ | field _ _ => .error .bareValue
  | compare l comparison r => do
    let l ← l.operand schema record slots
    let r ← r.operand schema record slots
    bindComparison l comparison r
  | textTest test negated target argument => do
    let target ← target.operand schema record slots
    let argument ← argument.operand schema record slots
    bindTextTest test negated target argument
  | join logic l r => do
    let l ← l.bind schema record slots
    let r ← r.bind schema record slots
    return fun x => logic.truth (l x) (r x)
  | not inner => do
    let inner ← inner.bind schema record slots
    return fun x => (inner x).denied

end Formula

def Lambda.bind (schema : Schema α) (l : Lambda) : Except BindError (α → Truth) :=
  l.body.bind schema l.record []

def Filter.bind (schema : Schema α) (f : Filter) : Except BindError (α → Truth) :=
  f.lambda.body.bind schema f.lambda.record f.slots

/-- A record matches where the truth is definite. -/
def isMatch (test : α → Truth) (record : α) : Bool := test record == .yes

end RecordQuery
