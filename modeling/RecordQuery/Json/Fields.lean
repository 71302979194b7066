import RecordQuery.Json

/-! Records with known fields in JSON: an object, whose unknown members are ignored, or an array
that gives the fields in order. A field may be missing but not given twice. -/
namespace RecordQuery

def single? : List α → Option (Option α)
  | [] => some none
  | [x] => some (some x)
  | _ => none

namespace Json

/-- What stands for each field, given by its names; `none` for one that is missing. -/
def fields? (names : List (List String)) : Json → Option (List (Option Json))
  | .object members =>
    names.mapM fun known => single? ((members.filter fun m => known.contains m.1).map (·.2))
  | .array items =>
    if items.length ≤ names.length then
      some (items.map some ++ List.replicate (names.length - items.length) none)
    else none
  | _ => none

def orElse (read : Json → Option α) (default : α) : Option Json → Option α
  | some json => read json
  | none => some default

def nullable (read : Json → Option α) : Json → Option (Option α)
  | .null => some none
  | json => (read json).map some

end Json

end RecordQuery
