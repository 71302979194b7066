import RecordQuery.Json
import RecordQuery.Store
import RecordQuery.Text.Quoted

/-! JSON records are known by their member `id`, a text or a signed 64-bit integer; any other
record has the key 0. -/
namespace RecordQuery

inductive Json.Key where
  | int (n : Int)
  | text (s : String)
  deriving DecidableEq, Repr

namespace Json.Key

def ofRecord (record : Json) : Json.Key :=
  match record.member? "id" with
  | some (.string s) => text s
  | some (.number (.int n)) => if n ≤ maxInt64 then int n else int 0
  | _ => int 0

def toText : Json.Key → String
  | int n => toString n
  | text s => quoteName s

end Json.Key

instance : Keyed Json Json.Key := ⟨Json.Key.ofRecord, Json.Key.toText⟩

end RecordQuery
