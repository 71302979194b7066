/-! A property of characters as a list of code point ranges, both ends included. -/
namespace RecordQuery

abbrev CharRanges := List (Nat × Nat)

def CharRanges.has (ranges : CharRanges) (c : Char) : Bool :=
  ranges.any fun range => range.1 ≤ c.toNat && c.toNat ≤ range.2

end RecordQuery
