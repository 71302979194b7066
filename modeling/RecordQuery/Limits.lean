import RecordQuery.Json.Fields
import RecordQuery.Request

/-! Caps on the size of requests. -/
namespace RecordQuery

structure Limits where
  /-- Depth of the condition tree; the root has depth 1. -/
  maxDepth : UInt64
  maxConditions : UInt64
  maxSortFields : UInt64
  deriving DecidableEq, Repr

namespace Limits

def standard : Limits := ⟨16, 256, 8⟩

/-- The largest caps there are. -/
def unbounded : Limits := ⟨.ofNat maxUInt64, .ofNat maxUInt64, .ofNat maxUInt64⟩

instance : Inhabited Limits := ⟨standard⟩

def checkDepth (limits : Limits) (depth : Nat) : Except RequestError Unit :=
  if limits.maxDepth.toNat < depth then .error (.tooDeep limits.maxDepth) else .ok ()

def checkConditions (limits : Limits) (count : Nat) : Except RequestError Unit :=
  if limits.maxConditions.toNat < count then .error (.tooManyConditions limits.maxConditions)
  else .ok ()

def checkSortFields (limits : Limits) (count : Nat) : Except RequestError Unit :=
  if limits.maxSortFields.toNat < count then .error (.tooManySortFields limits.maxSortFields)
  else .ok ()

def fieldNames : List String := ["max_depth", "max_conditions", "max_sort_fields"]

/-- What is missing keeps its value in `default`. -/
def ofJson? (default : Limits) (json : Json) : Option Limits := do
  match ← json.fields? (fieldNames.map fun name => [name]) with
  | [depth, conditions, sortFields] =>
    some ⟨← Json.orElse Json.word? default.maxDepth depth,
      ← Json.orElse Json.word? default.maxConditions conditions,
      ← Json.orElse Json.word? default.maxSortFields sortFields⟩
  | _ => none

def toJson (limits : Limits) : Json :=
  .object [("max_depth", .ofWord limits.maxDepth), ("max_conditions", .ofWord limits.maxConditions),
    ("max_sort_fields", .ofWord limits.maxSortFields)]

end Limits

end RecordQuery
