import RecordQuery.Schema
import RecordQuery.Text.Digits
import RecordQuery.Value.Json

/-! Dotted paths into JSON records. A segment names a member of an object or numbers an element of
an array. -/
namespace RecordQuery.Json

def segments? (path : String) : Option (List String) :=
  let parts := path.toList.splitOn '.'
  if parts.any List.isEmpty then none else some (parts.map String.ofList)

def step? (segment : String) : Json → Option Json
  | .object members => (Json.object members).member? segment
  | .array items => (readSignedNat? segment.toList).bind fun i => items[i]?
  | _ => none

def walk? : List String → Json → Option Json
  | [], json => some json
  | segment :: rest, json => (step? segment json).bind (walk? rest)

/-- The scalar at the end of a path; null, and any other value, reads as nothing. -/
def readPath (segments : List String) (record : Json) : Option Value :=
  (walk? segments record).bind fun json =>
    (Value.ofJson json).toOption.filter fun v => !v.isNull

/-- Every path without empty segments is a field, of no particular kind. -/
def schema : Schema Json := fun path =>
  (segments? path).map fun segments => ⟨readPath segments, none⟩

end RecordQuery.Json
