import RecordQuery.Decimal

/-! The text of a floating-point number. -/
namespace RecordQuery.Binary64

/-- Reads `[sign]digits[.digits][e[sign]digits]`; one side of the point may be empty. -/
def literal? (cs : List Char) : Option Decimal := do
  let negative := cs.head? = some '-'
  let cs := if negative ∨ cs.head? = some '+' then cs.drop 1 else cs
  let whole := cs.takeWhile isDecimalDigit
  let (fraction, rest) := match cs.dropWhile isDecimalDigit with
    | '.' :: rest => (rest.takeWhile isDecimalDigit, rest.dropWhile isDecimalDigit)
    | rest => ([], rest)
  let n ← readNat? (whole ++ fraction)
  let exponent ← match rest with
    | [] => some 0
    | 'e' :: rest | 'E' :: rest => readInt? rest
    | _ => none
  some ⟨if negative then -n else n, fraction.length - exponent⟩

end RecordQuery.Binary64
