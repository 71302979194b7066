/-! Tests of one text against another. -/
namespace RecordQuery

inductive TextTest where
  | startsWith
  | endsWith
  | contains
  deriving DecidableEq, Repr

/-- Whether the first list occurs in the second without gaps. -/
def occursIn (part : List Char) : List Char → Bool
  | [] => part.isEmpty
  | c :: rest => part.isPrefixOf (c :: rest) || occursIn part rest

namespace TextTest

def name : TextTest → String
  | startsWith => "StartsWith"
  | endsWith => "EndsWith"
  | contains => "Contains"

def holds (test : TextTest) (text part : String) : Bool :=
  match test with
  | startsWith => part.toList.isPrefixOf text.toList
  | endsWith => part.toList.isSuffixOf text.toList
  | contains => occursIn part.toList text.toList

end TextTest

end RecordQuery
