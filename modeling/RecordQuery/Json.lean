import RecordQuery.Binary64
import RecordQuery.Word

/-! JSON values. An integer that fits 64 bits, signed or unsigned, is exact; any other number is a
binary64 number. -/
namespace RecordQuery

inductive Json.Number where
  | int (n : Int)
  | real (x : Binary64)
  deriving DecidableEq, Repr, Inhabited

inductive Json where
  | null
  | bool (b : Bool)
  | number (n : Json.Number)
  | string (s : String)
  | array (items : List Json)
  | object (members : List (String × Json))
  deriving Repr, Inhabited

namespace Json

/-- The member of that name, in an object whose names are distinct. -/
def member? (name : String) : Json → Option Json
  | .object members => (members.find? fun m => m.1 == name).map (·.2)
  | _ => none

def text? : Json → Option String
  | .string s => some s
  | _ => none

def flag? : Json → Option Bool
  | .bool b => some b
  | _ => none

def items? : Json → Option (List Json)
  | .array items => some items
  | _ => none

/-- An integer from 0 to `maxUInt64`; `1.0` is none. -/
def word? : Json → Option UInt64
  | .number (.int n) => if 0 ≤ n ∧ n ≤ maxUInt64 then some (UInt64.ofNat n.toNat) else none
  | _ => none

def ofWord (n : UInt64) : Json := .number (.int n.toNat)

/-- Puts a member in its place by name; a member of that name that is there already stays. -/
def insertMember (m : String × Json) : List (String × Json) → List (String × Json)
  | [] => [m]
  | other :: rest =>
    if m.1 < other.1 then m :: other :: rest
    else if m.1 = other.1 then other :: rest
    else other :: insertMember m rest

mutual

/-- Members sorted by name at every depth; of several of one name the last is kept. -/
def canonical : Json → Json
  | .array items => .array (canonicalItems items)
  | .object members => .object (canonicalMembers members)
  | json => json

def canonicalItems : List Json → List Json
  | [] => []
  | json :: rest => canonical json :: canonicalItems rest

def canonicalMembers : List (String × Json) → List (String × Json)
  | [] => []
  | (name, json) :: rest => insertMember (name, canonical json) (canonicalMembers rest)

end

mutual

/-- Equality of values; members are compared in order, numbers by value. -/
def same : Json → Json → Bool
  | .null, .null => true
  | .bool a, .bool b => a == b
  | .number (.int a), .number (.int b) => a == b
  | .number (.real a), .number (.real b) => a == b || (a.isZero && b.isZero)
  | .string a, .string b => a == b
  | .array a, .array b => sameItems a b
  | .object a, .object b => sameMembers a b
  | _, _ => false

def sameItems : List Json → List Json → Bool
  | [], [] => true
  | a :: as, b :: bs => same a b && sameItems as bs
  | _, _ => false

def sameMembers : List (String × Json) → List (String × Json) → Bool
  | [], [] => true
  | (m, a) :: as, (n, b) :: bs => m == n && same a b && sameMembers as bs
  | _, _ => false

end

end Json

end RecordQuery
