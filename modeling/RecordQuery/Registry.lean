import RecordQuery.Schema
import RecordQuery.Text.Lowercase

/-! Fields registered by name. Upper and lower case are not told apart. -/
namespace RecordQuery

/-- Fields by lower-case name, each name once. -/
structure Registry (α : Type) where
  entries : List (String × Field α)

namespace Registry

def empty : Registry α := ⟨[]⟩

/-- Adds a field in place of one whose name is the same in lower case. -/
def insert (registry : Registry α) (name : String) (kind : FieldKind) (read : α → Option Value) :
    Registry α :=
  let key := lowercase name
  ⟨registry.entries.filter (fun e => e.1 ≠ key) ++ [(key, ⟨read, some kind⟩)]⟩

def get? (registry : Registry α) (name : String) : Option (Field α) :=
  let key := lowercase name
  (registry.entries.find? fun e => e.1 == key).map (·.2)

def size (registry : Registry α) : Nat := registry.entries.length

def schema (registry : Registry α) : Schema α := registry.get?

end Registry

end RecordQuery
