import RecordQuery.BindError

/-! Filters: a lambda and the values that its slots stand for. -/
namespace RecordQuery

/-- A slot whose value is missing or `none` stands for nothing. -/
structure Filter where
  lambda : Lambda
  slots : List (Option Value)
  deriving Repr, Inhabited

/-- The value of a slot, be it null. -/
def slotValue (slots : List (Option Value)) (index : Nat) : Except BindError Value :=
  match slots[index]? with
  | some (some v) => .ok v
  | _ => .error (.unknownSlot index)

namespace Formula

def inline (slots : List (Option Value)) : Formula → Except BindError Formula
  | slot index => do
    let v ← slotValue slots index
    return literal v
  | compare l c r => do
    let l ← l.inline slots
    let r ← r.inline slots
    return compare l c r
  | textTest t n l r => do
    let l ← l.inline slots
    let r ← r.inline slots
    return textTest t n l r
  | join logic l r => do
    let l ← l.inline slots
    let r ← r.inline slots
    return join logic l r
  | not inner => do
    let inner ← inner.inline slots
    return not inner
  | f => .ok f

end Formula

namespace Filter

def ofLambda (l : Lambda) : Filter := ⟨l, []⟩

def boundValues (f : Filter) : List Value := f.slots.filterMap id

def toLambda (f : Filter) : Except BindError Lambda := do
  let body ← f.lambda.body.inline f.slots
  return ⟨f.lambda.record, body⟩

end Filter

end RecordQuery
