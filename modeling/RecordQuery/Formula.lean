import RecordQuery.Operator
import RecordQuery.Request
import RecordQuery.Value

/-! Formulas over one record, which a placeholder stands for, and their combination. -/
namespace RecordQuery

structure Placeholder where
  id : Nat
  deriving DecidableEq, Repr, Inhabited

def Placeholder.name (p : Placeholder) : String := "x" ++ toString p.id

inductive Formula where
  | const (b : Bool)
  | literal (v : Value)
  /-- The value at a position of a list kept beside the formula. -/
  | slot (index : Nat)
  | field (record : Placeholder) (path : String)
  | compare (left : Formula) (comparison : Comparison) (right : Formula)
  /-- A text test. The negated one is unknown on null too, unlike `not` of the plain one. -/
  | textTest (test : TextTest) (negated : Bool) (target argument : Formula)
  | join (logic : Logic) (left right : Formula)
  | not (inner : Formula)
  deriving Repr, BEq, Inhabited

namespace Formula

/-- The formula with every mention of one placeholder replaced by another. -/
def replace (old new : Placeholder) : Formula → Formula
  | field p path => field (if p = old then new else p) path
  | compare l c r => compare (l.replace old new) c (r.replace old new)
  | textTest t n l r => textTest t n (l.replace old new) (r.replace old new)
  | join logic l r => join logic (l.replace old new) (r.replace old new)
  | not inner => not (inner.replace old new)
  | f => f

/-- The placeholders mentioned, from left to right. -/
def placeholders : Formula → List Placeholder
  | field p _ => [p]
  | compare l _ r | textTest _ _ l r | join _ l r => l.placeholders ++ r.placeholders
  | not inner => inner.placeholders
  | _ => []

end Formula

structure FieldRef where
  record : Placeholder
  path : String

namespace FieldRef

def formula (f : FieldRef) : Formula := .field f.record f.path

def compare (f : FieldRef) (comparison : Comparison) (v : Value) : Formula :=
  .compare f.formula comparison (.literal v)

def isNull (f : FieldRef) : Formula := f.compare .eq .null

def isNotNull (f : FieldRef) : Formula := f.compare .ne .null

def test (f : FieldRef) (t : TextTest) (part : String) : Formula :=
  .textTest t false f.formula (.literal (.text part))

end FieldRef

structure Lambda where
  record : Placeholder
  body : Formula
  deriving Repr, BEq, Inhabited

namespace Lambda

def always (p : Placeholder) : Lambda := ⟨p, .const true⟩

def never (p : Placeholder) : Lambda := ⟨p, .const false⟩

/-- Joins two lambdas into one about the first one's placeholder. -/
def join (logic : Logic) (l r : Lambda) : Lambda :=
  ⟨l.record, .join logic l.body (r.body.replace r.record l.record)⟩

def and (l r : Lambda) : Lambda := join .and l r

def or (l r : Lambda) : Lambda := join .or l r

def not (l : Lambda) : Lambda := ⟨l.record, .not l.body⟩

end Lambda

end RecordQuery
