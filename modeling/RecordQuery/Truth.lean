/-! Three-valued truth. A test that meets a null is unknown; `and` and `or` follow Kleene, while
`denied` is two-valued. -/
namespace RecordQuery

inductive Truth where
  | no
  | unknown
  | yes
  deriving DecidableEq, Repr, Inhabited

namespace Truth

def ofBool : Bool → Truth
  | true => yes
  | false => no

def and : Truth → Truth → Truth
  | no, _ | _, no => no
  | yes, yes => yes
  | _, _ => unknown

def or : Truth → Truth → Truth
  | yes, _ | _, yes => yes
  | no, no => no
  | _, _ => unknown

/-- True of everything that is not definitely true. -/
def denied (t : Truth) : Truth := ofBool (t != yes)

end Truth

end RecordQuery
