import RecordQuery.Word

/-! The values that settings are read from. Layers of them, from a file and from variables, are laid
one over the other member by member. -/
namespace RecordQuery

inductive Setting where
  | empty
  | flag (b : Bool)
  | whole (n : Int)
  /-- A number that is not whole. Nothing is set by one. -/
  | fractional
  | text (s : String)
  | list (items : List Setting)
  /-- Members with distinct names, in no particular order. -/
  | group (members : List (String × Setting))
  deriving Repr, Inhabited

namespace Setting

def find? (name : String) (members : List (String × Setting)) : Option Setting :=
  (members.find? fun m => m.1 == name).map (·.2)

def put (members : List (String × Setting)) (m : String × Setting) : List (String × Setting) :=
  m :: members.filter fun other => other.1 ≠ m.1

/-- A group; of several members of one name the last is kept. -/
def ofMembers (members : List (String × Setting)) : Setting := .group (members.foldl put [])

def members : Setting → List (String × Setting)
  | .group members => members
  | _ => []

mutual

/-- Lays one value over another: groups member by member, anything else as a whole. -/
def overlay (base : Setting) : Setting → Setting
  | .group members => .group (overlayMembers base.members members)
  | setting => setting

def overlayMembers (old : List (String × Setting)) :
    List (String × Setting) → List (String × Setting)
  | [] => old
  | (name, setting) :: rest =>
    overlayMembers (put old (name, overlay ((find? name old).getD .empty) setting)) rest

end

def overlayAll (layers : List Setting) : Setting := layers.foldl overlay (.group [])

def nest (path : List String) (setting : Setting) : Setting :=
  path.foldr (fun name inner => .group [(name, inner)]) setting

/-- What stands for each field: the member of its name or, in a list, the item of its position.
Anything further is ignored. -/
def fields? (names : List String) : Setting → Option (List (Option Setting))
  | .group members => some (names.map fun name => find? name members)
  | .list items => some (names.zipIdx.map fun field => items[field.2]?)
  | _ => none

def text? : Setting → Option String
  | .text s => some s
  | _ => none

def flag? : Setting → Option Bool
  | .flag b => some b
  | _ => none

def word? : Setting → Option UInt64
  | .whole n => if 0 ≤ n ∧ n ≤ maxUInt64 then some (UInt64.ofNat n.toNat) else none
  | _ => none

def optional (read : Setting → Option α) : Setting → Option (Option α)
  | .empty => some none
  | setting => (read setting).map some

end Setting

end RecordQuery
