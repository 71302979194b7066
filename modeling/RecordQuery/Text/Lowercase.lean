import RecordQuery.Text.CaseTable

/-! Lower case of whole texts. A capital sigma becomes the final form at the end of a word: after a
cased letter and before none, case-ignorable characters apart. -/
namespace RecordQuery

def isCased (c : Char) : Bool := casedRanges.has c
def isCaseIgnorable (c : Char) : Bool := caseIgnorableRanges.has c

/-- Whether the first character that is not case-ignorable is cased. -/
def meetsCased (cs : List Char) : Bool := (cs.dropWhile isCaseIgnorable).head?.any isCased

def lowercaseChar (c : Char) : List Char :=
  if c = 'İ' then ['i', '\u0307']
  else
    match lowercaseRuns.find? (·.has c.toNat) with
    | some run => [Char.ofNat (c.toNat + run.shift).toNat]
    | none => [c]

/-- The lower case of the last argument, where `before` is what stands in front of it, backwards. -/
def lowercaseAfter (before : List Char) : List Char → List Char
  | [] => []
  | c :: rest =>
    let lower :=
      if c = 'Σ' then [if meetsCased before && !meetsCased rest then 'ς' else 'σ']
      else lowercaseChar c
    lower ++ lowercaseAfter (c :: before) rest

def lowercase (s : String) : String := String.ofList (lowercaseAfter [] s.toList)

end RecordQuery
