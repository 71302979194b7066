import RecordQuery.Formula
import RecordQuery.Value.Text

/-! The text of formulas. A chain of one logic is written without parentheses; a chain of the other
logic inside of it has them. -/
namespace RecordQuery.Formula

/-- Whether a formula needs parentheses as a side of a chain of that logic. -/
def isOtherChain (logic : Logic) : Formula → Bool
  | join inner _ _ => inner != logic
  | _ => false

/-- Whether a negation is written right in front of a formula. -/
def isTight : Formula → Bool
  | const _ | field _ _ | textTest _ false _ _ => true
  | _ => false

def parenthesized (needed : Bool) (s : String) : String := if needed then "(" ++ s ++ ")" else s

def toText : Formula → String
  | const b => if b then "true" else "false"
  | literal v => v.shown
  | slot i => "@" ++ toString i
  | field _ path => "np(" ++ path ++ ")"
  | compare l c r => l.toText ++ " " ++ c.symbol ++ " " ++ r.toText
  | textTest t negated target argument =>
    (if negated then "!" else "") ++ target.toText ++ "." ++ t.name ++ "(" ++ argument.toText ++ ")"
  | join logic l r =>
    parenthesized (l.isOtherChain logic) l.toText ++ " " ++ logic.keyword ++ " " ++
      parenthesized (r.isOtherChain logic) r.toText
  | not inner => "!" ++ parenthesized (!inner.isTight) inner.toText

end RecordQuery.Formula
