import RecordQuery.Proofs.Kleene

/-! The meaning of a condition tree for a record, by recursion on the tree. -/
namespace RecordQuery

/-- The order of two values that are both there. -/
def orderOf (a b : Option Value) : Option Ordering := a.bind fun v => b.bind v.compare

/-- Whether a test holds of the texts of two values that both have one. -/
def TextTest.between (test : TextTest) (a b : Option Value) : Option Bool :=
  (a.bind Value.toText?).bind fun text => (b.bind Value.toText?).map (test.holds text)

/-- What an operator says of the value that a field reads, where null counts as nothing, beside the
value of its node. -/
def Operator.truth (op : Operator) (read given : Option Value) : Truth :=
  match op with
  | isNull => .ofBool read.isNone
  | isNotNull => .ofBool read.isSome
  | eq => .ofOption ((orderOf read given).map (· == .eq))
  | neq => .ofOption ((orderOf read given).map (· != .eq))
  | lt => .ofOption ((orderOf read given).map (· == .lt))
  | lte => .ofOption ((orderOf read given).map (· != .gt))
  | gt => .ofOption ((orderOf read given).map (· == .gt))
  | gte => .ofOption ((orderOf read given).map (· != .lt))
  | startsWith => .ofOption (TextTest.startsWith.between read given)
  | endsWith => .ofOption (TextTest.endsWith.between read given)
  | contains => .ofOption (TextTest.contains.between read given)
  | doesNotContain => (Truth.ofOption (TextTest.contains.between read given)).negated

namespace Operator

variable {op : Operator} {read given : Option Value}

theorem truth_compare {comparison : Comparison} (kind : op.kind = .compare comparison) :
    op.truth read given = compareTruth comparison read given := by
  cases read with
  | none => cases op <;> cases kind <;> rfl
  | some a =>
    cases given with
    | none => cases op <;> cases kind <;> rfl
    | some b =>
      cases op <;> cases kind <;> cases h : a.compare b <;>
        simp [truth, orderOf, compareTruth, h, Truth.ofOption, Comparison.holds]

theorem truth_nullCheck {negated : Bool} (kind : op.kind = .nullCheck negated) :
    op.truth read given = nullTruth negated read := by
  cases op <;> cases kind <;> cases read <;> rfl

theorem truth_textTest {test : TextTest} {negated : Bool}
    (kind : op.kind = .textTest test negated) :
    op.truth read given = textTruth test negated read given := by
  cases op <;> cases kind <;> simp only [truth, TextTest.between, textTruth] <;>
    cases read.bind Value.toText? <;> cases given.bind Value.toText? <;>
    simp [Truth.ofOption, Truth.negated_unknown]

end Operator

namespace Condition

def ownTruth (schema : Schema α) (record : α) (c : Condition) : Truth :=
  match Operator.ofSymbol? c.operator with
  | some op => op.truth ((schema c.field).bind fun f => f.value? record) c.operand?
  | none => .unknown

mutual

/-- What a tree says of a record: a node by itself, joined by its logic with what all its children
say. The logic of a node without children is not looked at. -/
def meaning (schema : Schema α) (record : α) : Condition → Truth
  | node field operator value logic children =>
    let own := ownTruth schema record (node field operator value logic children)
    if children.isEmpty then own
    else
      match logic.bind Logic.ofKeyword? with
      | some .and => .all (own :: meanings schema record children)
      | some .or => .any (own :: meanings schema record children)
      | none => .unknown

def meanings (schema : Schema α) (record : α) : List Condition → List Truth
  | [] => []
  | c :: cs => c.meaning schema record :: meanings schema record cs

end

theorem meaning_join {schema : Schema α} {field operator : String} {value : Option Value}
    {keyword : Option String} {logic : Logic} (named : keyword.bind Logic.ofKeyword? = some logic)
    (c : Condition) (cs : List Condition) (x : α) :
    (node field operator value keyword (c :: cs)).meaning schema x =
      logic.combine ((node field operator value keyword (c :: cs)).ownTruth schema x ::
        c.meaning schema x :: meanings schema x cs) := by
  cases logic <;> simp [meaning, meanings, named, Logic.combine]

end Condition

end RecordQuery
